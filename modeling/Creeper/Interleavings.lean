import Creeper.Runs
import Creeper.Transactions

/-!
# Interleaved procedures

Processes run procedures over one state, a transaction at a time and in any order; a process
may die between two transactions, and anything else may write to the state. All parties keep to
one relation between earlier and later states. A procedure that keeps to it, knowing only what
the others leave standing, does so in every interleaving, and its answers mean what they mean
alone.
-/

namespace Creeper.Interleavings
open Creeper.Runs Creeper.Transactions

variable {State Error Answer Result : Type}

/-! ## Keeping to a relation -/

/-- From every state of a set, the procedure keeps to the relation and ends with what it promises;
    between its transactions the others keep to the relation too. -/
def Meets (step : State → State → Prop) (post : Answer → State → Prop) : (State → Prop) → Script State Answer → Prop
  | known, .done answer => ∀ s, known s → post answer s
  | known, .txn write next => ∀ s, known s → step s (write s) ∧ Meets step post (step (write s)) (next s)

section
variable {step : State → State → Prop} {post : Answer → State → Prop} {known known' : State → Prop}

/-- Who knows more needs less. -/
theorem Meets.narrow {x : Script State Answer} (meets : Meets step post known x) (less : ∀ s, known' s → known s) :
    Meets step post known' x := by
  cases x with
  | done answer => exact fun s here => meets s (less s here)
  | txn write next => exact fun s here => meets s (less s here)

theorem Meets.never {x : Script State Answer} (none_ : ∀ s, ¬known s) : Meets step post known x := by
  cases x with
  | done answer => exact fun s here => absurd here (none_ s)
  | txn write next => exact fun s here => absurd here (none_ s)

theorem Meets.weaken {post' : Answer → State → Prop} {x : Script State Answer} (meets : Meets step post known x)
    (weaker : ∀ a s, post a s → post' a s) : Meets step post' known x := by
  induction x generalizing known with
  | done answer => exact fun s here => weaker answer s (meets s here)
  | txn write next ih => exact fun s here => ⟨(meets s here).1, ih s (meets s here).2⟩

/-- One procedure after another, which knows what the first promises. -/
theorem Meets.bind {mid : Result → State → Prop} {x : Script State Result} {f : Result → Script State Answer}
    (first : Meets step mid known x) (then_ : ∀ a, Meets step post (mid a) (f a)) : Meets step post known (x.bind f) := by
  induction x generalizing known with
  | done a => exact (then_ a).narrow first
  | txn write next ih => exact fun s here => ⟨(first s here).1, ih s (first s here).2⟩

/-- A procedure that dies has kept to the relation. -/
theorem Meets.stopped (refl : ∀ s, step s s) (trans : ∀ s t u, step s t → step t u → step s u) (n : Nat)
    {x : Script State Answer} {s : State} (meets : Meets step post known x) (here : known s) : step s (Script.stopped n x s) := by
  induction n generalizing x s known with
  | zero => cases x <;> exact refl s
  | succ n ih =>
    cases x with
    | done answer => exact refl s
    | txn write next =>
      obtain ⟨kept, later⟩ := meets s here
      exact trans _ _ _ kept (ih later (refl _))

theorem Meets.run (refl : ∀ s, step s s) (trans : ∀ s t u, step s t → step t u → step s u) {x : Script State Answer} {s : State}
    (meets : Meets step post known x) (here : known s) : step s (x.run s).2 ∧ post (x.run s).1 (x.run s).2 := by
  induction x generalizing known s with
  | done answer => exact ⟨refl s, meets s here⟩
  | txn write next ih =>
    obtain ⟨kept, later⟩ := meets s here
    obtain ⟨rest, promised⟩ := ih s later (refl _)
    exact ⟨trans _ _ _ kept rest, promised⟩

end

/-! ## Calls -/

section
variable {step : State → State → Prop} {post : Except Error Answer → State → Prop} {known : State → Prop}

theorem meets_pure {answer : Answer} (promised : ∀ s, known s → post (.ok answer) s) :
    Meets step post known (ExceptT.run (pure answer : Call State Error Answer)) := promised

theorem meets_throw {err : Error} (promised : ∀ s, known s → post (.error err) s) :
    Meets step post known (ExceptT.run (throw err : Call State Error Answer)) := promised

theorem meets_ofExcept {result : Except Error Answer} (promised : ∀ s, known s → post result s) :
    Meets step post known (ExceptT.run (Call.ofExcept result : Call State Error Answer)) := promised

theorem meets_atomic {f : State → Except Error Answer × State} (kept : ∀ s, known s → step s (f s).2)
    (promised : ∀ s, known s → ∀ later, step (f s).2 later → post (f s).1 later) :
    Meets step post known (ExceptT.run (Call.atomic f)) := fun s here => ⟨kept s here, fun later after => promised s here later after⟩

theorem meets_bind {q : Except Error Result → State → Prop} {x : Call State Error Result} {f : Result → Call State Error Answer}
    (first : Meets step q known (ExceptT.run x)) (then_ : ∀ a, Meets step post (q (.ok a)) (ExceptT.run (f a)))
    (raised : ∀ err s, q (.error err) s → post (.error err) s) : Meets step post known (ExceptT.run (x >>= f)) := by
  refine Meets.bind first fun a => ?_
  cases a with
  | ok a => exact then_ a
  | error err => exact raised err

theorem meets_finally {q : Except Error Answer → State → Prop} {x : Call State Error Answer} {cleanup : Call State Error Unit}
    (first : Meets step q known (ExceptT.run x))
    (then_ : ∀ a, Meets step (fun result s => post (result.bind fun _ => a) s) (q a) (ExceptT.run cleanup)) :
    Meets step post known (ExceptT.run (Call.andFinally x cleanup)) := by
  refine Meets.bind first fun a => Meets.bind (then_ a) fun result => ?_
  cases result with
  | ok answer => exact fun _ promised => promised
  | error err => exact fun _ promised => promised

end

/-! ## What procedures bring about -/

/-- From every state of a set, a procedure ends with what it promises; between its transactions the others
    write what they may. -/
def Leads (others : State → State → Prop) (post : Answer → State → Prop) : (State → Prop) → Script State Answer → Prop
  | known, .done answer => ∀ s, known s → post answer s
  | known, .txn write next => ∀ s, known s → Leads others post (others (write s)) (next s)

section
variable {others : State → State → Prop} {post : Answer → State → Prop} {known known' : State → Prop}

theorem Leads.narrow {x : Script State Answer} (leads : Leads others post known x) (less : ∀ s, known' s → known s) :
    Leads others post known' x := by
  cases x with
  | done answer => exact fun s here => leads s (less s here)
  | txn write next => exact fun s here => leads s (less s here)

theorem Leads.bind {mid : Result → State → Prop} {x : Script State Result} {f : Result → Script State Answer}
    (first : Leads others mid known x) (then_ : ∀ a, Leads others post (mid a) (f a)) : Leads others post known (x.bind f) := by
  induction x generalizing known with
  | done a => exact (then_ a).narrow first
  | txn write next ih => exact fun s here => ih s (first s here)

end

/-- A call that returns ends with what it promises. -/
def Returns (others : State → State → Prop) (ok : Answer → State → Prop) (known : State → Prop) (x : Call State Error Answer) :
    Prop :=
  Leads others (fun result s => ∀ answer, result = .ok answer → ok answer s) known (ExceptT.run x)

section
variable {others : State → State → Prop} {ok : Answer → State → Prop} {known known' : State → Prop}

theorem returns_pure {answer : Answer} (promised : ∀ s, known s → ok answer s) :
    Returns others ok known (pure answer : Call State Error Answer) := by
  intro s here other same
  cases same
  exact promised s here

theorem returns_atomic {f : State → Except Error Answer × State}
    (promised : ∀ s answer, known s → (f s).1 = .ok answer → ∀ later, others (f s).2 later → ok answer later) :
    Returns others ok known (Call.atomic f) :=
  fun s here later after answer same => promised s answer here same later after

theorem returns_bind {mid : Result → State → Prop} {x : Call State Error Result} {f : Result → Call State Error Answer}
    (first : Returns others mid known x) (then_ : ∀ a, Returns others ok (mid a) (f a)) :
    Returns others ok known (x >>= f) := by
  refine Leads.bind first fun a => ?_
  cases a with
  | ok a => exact (then_ a).narrow fun s promised => promised a rfl
  | error err => exact fun _ _ _ same => nomatch same

theorem Returns.narrow {x : Call State Error Answer} (returns : Returns others ok known x) (less : ∀ s, known' s → known s) :
    Returns others ok known' x := Leads.narrow returns less

end

/-! ## Processes -/

section
variable {Id Job : Type} [DecidableEq Id]

/-- A state and the procedures that processes are in. -/
structure Pool (Id Job State Answer : Type) where
  state : State
  running : Id → Option (Job × Script State Answer)

inductive PoolEvent (Id Job State : Type)
  | start (process : Id) (job : Job)
  | advance (process : Id)
  | crash (process : Id)
  | other (write : State → State)

/-- A step; its outcome is the answer of the procedure that it ends. -/
def poolStep (script : Job → Script State Answer) (p : Pool Id Job State Answer) :
    PoolEvent Id Job State → Option (Job × Answer) × Pool Id Job State Answer
  | .start process job =>
    match p.running process with
    | some _ => (none, p)
    | none => (none, { p with running := Function.update p.running process (some (job, script job)) })
  | .advance process =>
    match p.running process with
    | none => (none, p)
    | some (job, .done answer) => (some (job, answer), { p with running := Function.update p.running process none })
    | some (job, .txn write next) =>
      (none, ⟨write p.state, Function.update p.running process (some (job, next p.state))⟩)
  | .crash process => (none, { p with running := Function.update p.running process none })
  | .other write => (none, { p with state := write p.state })

/-- Processes over a state, none of them running. -/
def pool (script : Job → Script State Answer) (start : State) : Machine (Pool Id Job State Answer) (PoolEvent Id Job State)
    (Option (Job × Answer)) where
  initial := ⟨start, fun _ => none⟩
  step := poolStep script

/-- What the others write keeps to the relation. -/
def OthersKeep (step : State → State → Prop) (es : List (PoolEvent Id Job State)) : Prop :=
  ∀ write, PoolEvent.other write ∈ es → ∀ s, step s (write s)

section
variable {script : Job → Script State Answer} {start : State} {step : State → State → Prop} {post : Job → Answer → State → Prop}
  {es : List (PoolEvent Id Job State)}

/-- Every process goes on from where it was, whatever the others did meanwhile. -/
def Inside (step : State → State → Prop) (post : Job → Answer → State → Prop) (p : Pool Id Job State Answer) : Prop :=
  ∀ process job x, p.running process = some (job, x) → Meets step (post job) (step p.state) x

theorem Inside.moved {p : Pool Id Job State Answer} (trans : ∀ s t u, step s t → step t u → step s u) (inside : Inside step post p)
    {s : State} (kept : step p.state s) {process : Id} {entry : Option (Job × Script State Answer)}
    (own : ∀ job x, entry = some (job, x) → Meets step (post job) (step s) x) :
    Inside step post ⟨s, Function.update p.running process entry⟩ := by
  intro process' job x runs
  by_cases same : process' = process
  · subst same
    simp only [Function.update_self] at runs
    exact own job x runs
  · simp only [Function.update_of_ne same] at runs
    exact (inside process' job x runs).narrow fun t later => trans _ _ _ kept later

theorem poolStep_keeps (refl : ∀ s, step s s) (trans : ∀ s t u, step s t → step t u → step s u)
    (meets : ∀ job, Meets step (post job) (fun _ => True) (script job)) {p : Pool Id Job State Answer} (inside : Inside step post p)
    (e : PoolEvent Id Job State) (others : ∀ write, e = .other write → ∀ s, step s (write s)) :
    step p.state (poolStep script p e).2.state ∧ Inside step post (poolStep script p e).2 ∧
      ∀ job answer, (poolStep script p e).1 = some (job, answer) → post job answer (poolStep script p e).2.state := by
  cases e with
  | start process job =>
    simp only [poolStep]
    cases runs : p.running process with
    | some entry => exact ⟨refl _, inside, nofun⟩
    | none =>
      refine ⟨refl _, inside.moved trans (refl _) fun job' x same => ?_, nofun⟩
      cases same
      exact (meets job).narrow fun _ _ => trivial
  | advance process =>
    simp only [poolStep]
    cases runs : p.running process with
    | none => exact ⟨refl _, inside, nofun⟩
    | some entry =>
      obtain ⟨job, x⟩ := entry
      have here := inside process job x runs
      cases x with
      | done answer =>
        refine ⟨refl _, inside.moved trans (refl _) nofun, fun job' answer' same => ?_⟩
        cases same
        exact here p.state (refl _)
      | txn write next =>
        obtain ⟨kept, later⟩ := here p.state (refl _)
        refine ⟨kept, inside.moved trans kept fun job' x same => ?_, nofun⟩
        cases same
        exact later
  | crash process => exact ⟨refl _, inside.moved trans (refl _) nofun, nofun⟩
  | other write =>
    refine ⟨others write rfl p.state, fun process job x runs => ?_, nofun⟩
    exact (inside process job x runs).narrow fun t later => trans _ _ _ (others write rfl p.state) later

variable (start)

theorem pool_inside (refl : ∀ s, step s s) (trans : ∀ s t u, step s t → step t u → step s u)
    (meets : ∀ job, Meets step (post job) (fun _ => True) (script job)) (es : List (PoolEvent Id Job State))
    (others : OthersKeep step es) : Inside step post ((pool script start).final es) := by
  induction es using List.reverseRecOn with
  | nil => exact nofun
  | append_singleton es e ih =>
    have before := ih fun write member => others write (List.mem_append_left _ member)
    rw [Machine.final_snoc]
    refine (poolStep_keeps refl trans meets before e fun write same => others write ?_).2.1
    rw [same]
    exact List.mem_append_right _ (List.mem_singleton_self _)

/-- Later states of a run are later in the relation. -/
theorem pool_keeps (refl : ∀ s, step s s) (trans : ∀ s t u, step s t → step t u → step s u)
    (meets : ∀ job, Meets step (post job) (fun _ => True) (script job)) {before after : List (PoolEvent Id Job State)}
    (others : OthersKeep step (before ++ after)) :
    step ((pool script start).final before).state ((pool script start).final (before ++ after)).state := by
  induction after using List.reverseRecOn with
  | nil =>
    rw [List.append_nil]
    exact refl _
  | append_singleton after e ih =>
    rw [← List.append_assoc] at others ⊢
    have earlier := ih fun write member => others write (List.mem_append_left _ member)
    have inside := pool_inside start refl trans meets (before ++ after) fun write member => others write (List.mem_append_left _ member)
    rw [Machine.final_snoc]
    refine trans _ _ _ earlier (poolStep_keeps refl trans meets inside e fun write same => others write ?_).1
    rw [same]
    exact List.mem_append_right _ (List.mem_singleton_self _)

theorem pool_answers (refl : ∀ s, step s s) (trans : ∀ s t u, step s t → step t u → step s u)
    (meets : ∀ job, Meets step (post job) (fun _ => True) (script job)) {before : List (PoolEvent Id Job State)}
    {e : PoolEvent Id Job State} (others : OthersKeep step (before ++ [e])) {job : Job} {answer : Answer}
    (ended : ((pool script start).step ((pool script start).final before) e).1 = some (job, answer)) :
    post job answer ((pool script start).final (before ++ [e])).state := by
  have inside := pool_inside start refl trans meets before fun write member => others write (List.mem_append_left _ member)
  rw [Machine.final_snoc]
  refine (poolStep_keeps refl trans meets inside e fun write same => others write ?_).2.2 job answer ended
  rw [same]
  exact List.mem_append_right _ (List.mem_singleton_self _)

end
end

end Creeper.Interleavings
