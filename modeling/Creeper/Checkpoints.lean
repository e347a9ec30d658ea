import Creeper.Transactions

/-!
# Imports with checkpoints

An import reads lines in batches. Every batch is written in one transaction with the position
behind it, so that an import which dies goes on where its last transaction ended.
-/

namespace Creeper.Checkpoints
open Creeper.Transactions

/-! ## Procedures that die -/

section
variable {State Answer Result : Type}

/-- A procedure that dies in one procedure after another died in the first or in the second. -/
theorem stopped_bind (x : Script State Answer) (f : Answer → Script State Result) (s : State) (n : Nat) :
    (∃ m, Script.stopped n (x.bind f) s = Script.stopped m x s) ∨
      ∃ m, Script.stopped n (x.bind f) s = Script.stopped m (f (x.run s).1) (x.run s).2 := by
  induction x generalizing s n with
  | done answer => exact .inr ⟨n, rfl⟩
  | txn write next ih =>
    cases n with
    | zero => exact .inl ⟨0, rfl⟩
    | succ n =>
      rcases ih s (write s) n with ⟨m, same⟩ | ⟨m, same⟩
      · exact .inl ⟨m + 1, same⟩
      · exact .inr ⟨m, same⟩

/-- Wherever the procedure dies, the property holds. -/
def Survives (holds : State → Prop) (x : Script State Answer) (s : State) : Prop := ∀ n, holds (Script.stopped n x s)

theorem survives_bind {holds : State → Prop} {x : Script State Answer} {f : Answer → Script State Result} {s : State}
    (first : Survives holds x s) (then_ : Survives holds (f (x.run s).1) (x.run s).2) : Survives holds (x.bind f) s := by
  intro n
  rcases stopped_bind x f s n with ⟨m, same⟩ | ⟨m, same⟩
  · rw [same]
    exact first m
  · rw [same]
    exact then_ m

theorem survives_done {holds : State → Prop} {s : State} (here : holds s) (answer : Answer) :
    Survives holds (.done answer : Script State Answer) s := by
  rintro (- | n) <;> exact here

theorem survives_txn {holds : State → Prop} {write : State → State} {next : State → Script State Answer} {s : State} (here : holds s)
    (later : Survives holds (next s) (write s)) : Survives holds (.txn write next) s := by
  rintro (- | n)
  · exact here
  · exact later n

end

/-! ## Imports -/

section
variable {State Line Value : Type} (keep : Line → Option Value) (commit : List Value → Nat → Bool → State → State) (size : Nat)

/-- The lines from a position on, with the values of the batch so far. -/
def importLines : Nat → List Value → List Line → Script State Unit
  | current, batch, [] => .txn (commit batch current true) fun _ => .done ()
  | current, batch, line :: rest =>
    let batch := batch ++ (keep line).toList
    if size ≤ batch.length then .txn (commit batch (current + 1) false) fun _ => importLines (current + 1) [] rest
    else importLines (current + 1) batch rest

/-- What holds of the state that has a position of some lines still holds after a commit. -/
structure Commits (lines : List Line) (holds : Nat → Bool → State → Prop) : Prop where
  commit : ∀ offset current finished s, offset ≤ current → current ≤ lines.length → (finished = true → current = lines.length) →
    holds offset false s → holds current finished (commit (((lines.take current).drop offset).filterMap keep) current finished s)

variable {keep commit} {lines : List Line} {holds : Nat → Bool → State → Prop} (commits : Commits keep commit lines holds)
include commits

theorem importLines_holds (size current offset : Nat) (rest : List Line) (split : lines.drop current = rest) (ahead : offset ≤ current)
    (inside : current ≤ lines.length) {s : State} (here : holds offset false s) :
    Survives (fun s' => ∃ offset' finished, holds offset' finished s')
        (importLines keep commit size current (((lines.take current).drop offset).filterMap keep) rest) s ∧
      holds lines.length true ((importLines keep commit size current (((lines.take current).drop offset).filterMap keep) rest).run s).2 := by
  induction rest generalizing current offset s with
  | nil =>
    have whole : current = lines.length := le_antisymm inside (List.drop_eq_nil_iff.mp split)
    have ended := commits.commit offset current true s ahead inside (fun _ => whole) here
    unfold importLines
    refine ⟨survives_txn ⟨_, _, here⟩ (survives_done ⟨_, _, ended⟩ ()), ?_⟩
    rw [whole] at ended ⊢
    exact ended
  | cons line rest ih =>
    obtain ⟨within, next⟩ : ∃ within : current < lines.length, lines[current] = line := by
      have within : current < lines.length := by
        by_contra outside
        rw [List.drop_eq_nil_iff.mpr (not_lt.mp outside)] at split
        cases split
      rw [List.drop_eq_getElem_cons within] at split
      exact ⟨within, (List.cons.inj split).1⟩
    have later : lines.drop (current + 1) = rest := by
      rw [List.drop_eq_getElem_cons within] at split
      exact (List.cons.inj split).2
    -- the batch holds the lines since the last commit
    have batch : ((lines.take current).drop offset).filterMap keep ++ (keep line).toList =
        ((lines.take (current + 1)).drop offset).filterMap keep := by
      rw [List.take_succ_eq_append_getElem within, next, List.drop_append_of_le_length (by rw [List.length_take]; omega), List.filterMap_append]
      congr 1
    unfold importLines
    dsimp only
    rw [batch]
    by_cases full : size ≤ (((lines.take (current + 1)).drop offset).filterMap keep).length
    · rw [if_pos full]
      have committed := commits.commit offset (current + 1) false s (by omega) within nofun here
      have empty : ((lines.take (current + 1)).drop (current + 1)).filterMap keep = [] := by
        rw [List.drop_eq_nil_of_le (List.length_take_le _ _)]
        rfl
      have more := ih (current + 1) (current + 1) later le_rfl within committed
      rw [empty] at more
      exact ⟨survives_txn ⟨_, _, here⟩ more.1, more.2⟩
    · rw [if_neg full]
      exact ih (current + 1) offset later (by omega) within here

/-- An import from a position keeps what holds of positions wherever it dies, and a whole one ends behind the last line. -/
theorem import_holds (size offset : Nat) (inside : offset ≤ lines.length) {s : State} (here : holds offset false s) :
    Survives (fun s' => ∃ offset' finished, holds offset' finished s') (importLines keep commit size offset [] (lines.drop offset)) s ∧
      holds lines.length true ((importLines keep commit size offset [] (lines.drop offset)).run s).2 := by
  have empty : ((lines.take offset).drop offset).filterMap keep = [] := by
    rw [List.drop_eq_nil_of_le (List.length_take_le _ _)]
    rfl
  have both := importLines_holds commits size offset offset (lines.drop offset) rfl le_rfl inside here
  rw [empty] at both
  exact both

end

end Creeper.Checkpoints
