import Mathlib
import ChallengeDns.Proofs.Json.Machine

/-!
# Texts in JSON values

The texts in a value that is read are among the tokens of its text, so whatever holds of the tokens
holds of the texts.
-/
namespace ChallengeDns

/-- A text is a part of a value, at any depth. -/
inductive Value.Occurs (t : Text) : Value → Prop where
  | here : Occurs t (.ofText t)
  | item {vs : List Value} {v : Value} : v ∈ vs → Occurs t v → Occurs t (.list vs)
  | entry {es : List (Scalar × Value)} {e : Scalar × Value} :
    e ∈ es → Occurs t e.2 → Occurs t (.mapping es)

def Value.AllTexts (P : Text → Prop) (v : Value) : Prop := ∀ t, v.Occurs t → P t

namespace Json

variable {P : Text → Prop}

def Frame.AllTexts (P : Text → Prop) : Frame → Prop
  | .array items => ∀ v ∈ items, v.AllTexts P
  | .object entries _ => ∀ e ∈ entries, e.2.AllTexts P

namespace Machine

/-- Every text that the machine has read into values has a property. -/
structure AllTexts (P : Text → Prop) (m : Machine) : Prop where
  frames : ∀ f ∈ m.frames, f.AllTexts P
  result : ∀ v, m.awaited = .nothing v → v.AllTexts P

theorem forall_insertEntry {Q : Value → Prop} {k : Scalar} {v : Value}
    {es : List (Scalar × Value)} (new : Q v) (old : ∀ e ∈ es, Q e.2) :
    ∀ e ∈ Value.insertEntry k v es, Q e.2 := by
  induction es with
  | nil => exact List.forall_mem_singleton.mpr new
  | cons first es ih =>
    obtain ⟨here, later⟩ := List.forall_mem_cons.mp old
    unfold Value.insertEntry
    split
    · exact List.forall_mem_cons.mpr ⟨new, later⟩
    · exact List.forall_mem_cons.mpr ⟨here, ih later⟩

/-- A mapping has no values but the ones that were written. -/
theorem forall_entriesOf {Q : Value → Prop} {written : List (Scalar × Value)}
    (values : ∀ e ∈ written, Q e.2) : ∀ e ∈ Value.entriesOf written, Q e.2 := by
  have gather (es : List (Scalar × Value)) (old : ∀ e ∈ es, Q e.2) :
      ∀ e ∈ written.foldl (fun es e => Value.insertEntry e.1 e.2 es) es, Q e.2 := by
    induction written generalizing es with
    | nil => exact old
    | cons first written ih =>
      obtain ⟨here, later⟩ := List.forall_mem_cons.mp values
      exact ih later _ (forall_insertEntry here old)
  exact gather [] nofun

theorem allTexts_list {vs : List Value} (items : ∀ v ∈ vs, v.AllTexts P) :
    (Value.list vs).AllTexts P := by
  intro t occurs
  cases occurs with
  | item member inside => exact items _ member t inside

theorem allTexts_mapping {es : List (Scalar × Value)} (values : ∀ e ∈ es, e.2.AllTexts P) :
    (Value.mapping es).AllTexts P := by
  intro t occurs
  cases occurs with
  | entry member inside => exact values _ member t inside

theorem allTexts_closed {f : Frame} (texts : f.AllTexts P) : (closed f).AllTexts P := by
  cases f with
  | array items => exact allTexts_list fun v member => texts v (List.mem_reverse.mp member)
  | object entries key =>
    exact allTexts_mapping
      (forall_entriesOf fun e member => texts e (List.mem_reverse.mp member))

theorem allTexts_complete {frames : List Frame} {v : Value}
    (texts : ∀ f ∈ frames, f.AllTexts P) (value : v.AllTexts P) :
    (complete frames v).AllTexts P := by
  cases frames with
  | nil =>
    refine ⟨nofun, ?_⟩
    intro w done
    cases done
    exact value
  | cons f frames =>
    obtain ⟨inner, outer⟩ := List.forall_mem_cons.mp texts
    cases f with
    | array items =>
      refine ⟨List.forall_mem_cons.mpr ⟨?_, outer⟩, nofun⟩
      exact List.forall_mem_cons.mpr ⟨value, inner⟩
    | object entries key =>
      refine ⟨List.forall_mem_cons.mpr ⟨?_, outer⟩, nofun⟩
      exact List.forall_mem_cons.mpr ⟨value, inner⟩

theorem allTexts_value {frames : List Frame} {pos : Nat} {token : Token} {m : Machine}
    (texts : ∀ f ∈ frames, f.AllTexts P) (new : ∀ t, token = .scalar (.text t) → P t)
    (next : value frames pos token = .ok m) : m.AllTexts P := by
  unfold value at next
  split at next
  · next s =>
    cases next
    refine allTexts_complete texts ?_
    intro t occurs
    cases occurs
    exact new t rfl
  · split at next
    · cases next
    · cases next
      exact ⟨List.forall_mem_cons.mpr ⟨nofun, texts⟩, nofun⟩
  · split at next
    · cases next
    · cases next
      exact ⟨List.forall_mem_cons.mpr ⟨nofun, texts⟩, nofun⟩
  all_goals cases next

theorem allTexts_name {frames : List Frame} {pos : Nat} {token : Token} {m : Machine}
    (texts : ∀ f ∈ frames, f.AllTexts P) (next : name frames pos token = .ok m) :
    m.AllTexts P := by
  unfold name at next
  split at next
  · split at next
    · cases next
      obtain ⟨inner, outer⟩ := List.forall_mem_cons.mp texts
      exact ⟨List.forall_mem_cons.mpr ⟨inner, outer⟩, nofun⟩
    · cases next
  all_goals cases next

/-- One token adds at most its own text. -/
theorem allTexts_step {m n : Machine} {pos : Nat} {token : Token} (texts : m.AllTexts P)
    (new : ∀ t, token = .scalar (.text t) → P t) (next : m.step pos token = .ok n) :
    n.AllTexts P := by
  -- What the machine waits for decides what a token does; a closing token moves the values of one
  -- frame outwards and adds nothing.
  obtain ⟨frames, awaited⟩ := m
  unfold step at next
  cases awaited with
  | value => exact allTexts_value texts.frames new next
  | firstItem =>
    dsimp only at next
    split at next
    · next f frames =>
      cases next
      obtain ⟨inner, outer⟩ := List.forall_mem_cons.mp texts.frames
      exact allTexts_complete outer (allTexts_closed inner)
    · exact allTexts_value texts.frames new next
  | firstName =>
    dsimp only at next
    split at next
    · next f frames =>
      cases next
      obtain ⟨inner, outer⟩ := List.forall_mem_cons.mp texts.frames
      exact allTexts_complete outer (allTexts_closed inner)
    · exact allTexts_name texts.frames next
  | name => exact allTexts_name texts.frames next
  | colon =>
    dsimp only at next
    split at next
    · cases next
      exact ⟨texts.frames, nofun⟩
    · cases next
  | comma =>
    dsimp only at next
    split at next
    · cases next
      exact ⟨texts.frames, nofun⟩
    · cases next
      exact ⟨texts.frames, nofun⟩
    · cases next
      obtain ⟨inner, outer⟩ := List.forall_mem_cons.mp texts.frames
      exact allTexts_complete outer (allTexts_closed inner)
    · cases next
      obtain ⟨inner, outer⟩ := List.forall_mem_cons.mp texts.frames
      exact allTexts_complete outer (allTexts_closed inner)
    · cases next
  | nothing v => cases next

theorem allTexts_run {m : Machine} {stop : Nat} {tokens : List (Nat × Token)} {v : Value}
    (texts : m.AllTexts P) (new : ∀ p t, (p, Token.scalar (.text t)) ∈ tokens → P t)
    (done : m.run stop tokens = .ok v) : v.AllTexts P := by
  -- By induction on the tokens, with `allTexts_step` for each of them.
  induction tokens generalizing m with
  | nil =>
    unfold run finish at done
    split at done
    · next v awaited =>
      cases done
      exact texts.result v awaited
    all_goals cases done
  | cons first tokens ih =>
    obtain ⟨pos, token⟩ := first
    rw [run] at done
    cases next : m.step pos token with
    | error c => simp [next] at done
    | ok n =>
      simp only [next] at done
      refine ih (allTexts_step texts ?_ next) ?_ done
      · rintro t rfl
        exact new pos t List.mem_cons_self
      · exact fun p t later => new p t (List.mem_cons_of_mem _ later)

end Machine

/-- Every text in a value that is read from a text without surrogates is joined. -/
theorem read_joined {t : Text} {v : Value} (whole : t.IsWhole) (read : Json.read t = .ok v) :
    v.AllTexts Text.IsJoined := by
  unfold Json.read at read
  split at read
  · cases read
  · unfold readAny at read
    cases done : Machine.start.run t.length (tokens t) with
    | error c => simp [done] at read
    | ok w =>
      simp only [done, Except.ok.injEq] at read
      subst read
      have start : Machine.AllTexts Text.IsJoined ⟨[], .value⟩ := ⟨nofun, nofun⟩
      exact Machine.allTexts_run start (fun p u member => tokensFrom_joined whole member) done

end Json

end ChallengeDns
