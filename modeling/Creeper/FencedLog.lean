import Mathlib

/-!
# Fenced logs

One holder at a time may extend a log. A grant raises the token, an entry carries
the token it was appended under and the next number, and a closed log is never
extended again. Whatever the order of grants, releases and appends, the entries
are numbered without gap or repetition and their tokens never fall.
-/

namespace Creeper.FencedLog

variable {Holder Entry Position : Type*}

/-- A log, who may extend it, and where the last entry left it. -/
structure Fenced (Holder Entry Position : Type*) where
  token : Nat
  holder : Option Holder
  next : Nat
  position : Option Position
  entries : List Entry
  closed : Bool

def Fenced.start : Fenced Holder Entry Position := ⟨0, none, 0, none, [], false⟩

/-- What entries say about themselves: their number, their token, and the position they leave. -/
structure Reading (Entry Position : Type*) where
  number : Entry → Nat
  token : Entry → Nat
  position : Entry → Option Position

/-- The log after one more entry. -/
def Fenced.extend (f : Fenced Holder Entry Position) (reading : Reading Entry Position) (entry : Entry)
    (final : Bool) : Fenced Holder Entry Position :=
  { f with
    holder := if final then none else f.holder, next := f.next + 1, position := reading.position entry,
    entries := f.entries ++ [entry], closed := f.closed || final }

/-- The steps that a fenced log allows. -/
inductive Move (reading : Reading Entry Position) :
    Fenced Holder Entry Position → Fenced Holder Entry Position → Prop
  | stay (f) : Move reading f f
  | grant (f) (holder : Holder) (isOpen : f.closed = false) :
      Move reading f { f with token := f.token + 1, holder := some holder }
  | release (f) : Move reading f { f with holder := none }
  | append (f) (holder : Holder) (entry : Entry) (final : Bool) (held : f.holder = some holder)
      (number : reading.number entry = f.next) (token : reading.token entry = f.token) :
      Move reading f (f.extend reading entry final)
  | close (f) : Move reading f { f with holder := none, closed := true }
  | forget (f) (isClosed : f.closed = true) : Move reading f { f with position := none }

/-- What every reachable log satisfies. -/
structure Sound (reading : Reading Entry Position) (f : Fenced Holder Entry Position) : Prop where
  numbers : f.entries.map reading.number = List.range f.entries.length
  next : f.next = f.entries.length
  tokens : (f.entries.map reading.token).Pairwise (· ≤ ·)
  below : ∀ entry ∈ f.entries, reading.token entry ≤ f.token
  closed : f.closed = true → f.holder = none

variable {reading : Reading Entry Position}

theorem sound_start : Sound reading (Fenced.start : Fenced Holder Entry Position) :=
  ⟨rfl, rfl, List.Pairwise.nil, by simp [Fenced.start], fun _ => rfl⟩

theorem Sound.extend {f : Fenced Holder Entry Position} (sound : Sound reading f) {holder : Holder} {entry : Entry}
    (held : f.holder = some holder) (number : reading.number entry = f.next) (token : reading.token entry = f.token)
    (final : Bool) : Sound reading (f.extend reading entry final) where
  numbers := by
    simp only [Fenced.extend, List.map_append, List.map_cons, List.map_nil, List.length_append, List.length_cons,
      List.length_nil, List.range_succ, sound.numbers, number, sound.next]
  next := by simp [Fenced.extend, sound.next]
  tokens := by
    simp only [Fenced.extend, List.map_append, List.map_cons, List.map_nil]
    refine List.pairwise_append.mpr ⟨sound.tokens, List.pairwise_singleton _ _, ?_⟩
    intro a member b last
    obtain ⟨old, listed, rfl⟩ := List.mem_map.mp member
    rw [List.mem_singleton.mp last, token]
    exact sound.below old listed
  below := by
    intro old member
    rcases List.mem_append.mp member with before | last
    · exact sound.below old before
    · rw [List.mem_singleton.mp last, token]
      exact le_refl _
  closed := by
    intro isClosed
    cases final with
    | true => rfl
    | false =>
      have was : f.closed = true := by simpa [Fenced.extend] using isClosed
      rw [sound.closed was] at held
      cases held

theorem Move.sound {f g : Fenced Holder Entry Position} (move : Move reading f g) (sound : Sound reading f) :
    Sound reading g := by
  cases move with
  | stay => exact sound
  | grant holder isOpen =>
    refine ⟨sound.numbers, sound.next, sound.tokens, fun entry member => ?_, fun isClosed => ?_⟩
    · exact (sound.below entry member).trans (Nat.le_succ _)
    · exact absurd isClosed (by simp [isOpen])
  | release => exact ⟨sound.numbers, sound.next, sound.tokens, sound.below, fun _ => rfl⟩
  | append holder entry final held number token => exact sound.extend held number token final
  | close => exact ⟨sound.numbers, sound.next, sound.tokens, sound.below, fun _ => rfl⟩
  | forget => exact ⟨sound.numbers, sound.next, sound.tokens, sound.below, sound.closed⟩

/-- The logs that steps from the start lead to. -/
def Reachable (reading : Reading Entry Position) (f : Fenced Holder Entry Position) : Prop :=
  Relation.ReflTransGen (Move reading) Fenced.start f

theorem Reachable.sound {f : Fenced Holder Entry Position} (reachable : Reachable reading f) : Sound reading f := by
  induction reachable with
  | refl => exact sound_start
  | tail _ move ih => exact move.sound ih

theorem Move.closed {f g : Fenced Holder Entry Position} (move : Move reading f g) (sound : Sound reading f)
    (isClosed : f.closed = true) : g.closed = true ∧ g.entries = f.entries := by
  cases move with
  | stay | release | close | forget => exact ⟨by simp [isClosed], rfl⟩
  | grant holder isOpen => exact absurd isClosed (by simp [isOpen])
  | append holder entry final held =>
    rw [sound.closed isClosed] at held
    cases held

/-- Entries with different numbers are different. -/
theorem Sound.distinct {f : Fenced Holder Entry Position} (sound : Sound reading f) :
    f.entries.Pairwise (fun a b => reading.number a ≠ reading.number b) := by
  have distinct : (f.entries.map reading.number).Nodup := by
    rw [sound.numbers]
    exact List.nodup_range
  exact List.pairwise_map.mp distinct

end Creeper.FencedLog
