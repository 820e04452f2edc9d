import Mathlib
import ChallengeDns.Proofs.Json.Sorting
import ChallengeDns.Proofs.Store.Restart

/-!
# Names do not disturb each other

A store after some publications is decided by the values of each name, in the order in which that
name got them.  How the publications of different names were interleaved leaves no trace, neither in
what can be looked up nor in the state file.
-/
namespace ChallengeDns

structure Put where
  -- Any spelling of the name, and any value: one that no file can hold makes its put fail.
  name : Name.Given
  value : TxtValue

/-- Whether a value is for a name, in some case. -/
def Put.isFor (n : Name) (p : Put) : Bool :=
  match p.name.read with
  | .error _ => false
  | .ok m => m.same n

theorem Put.isFor_canonical (p : Put) (n : Name) : p.isFor n.canonical = p.isFor n := by
  unfold Put.isFor
  cases p.name.read with
  | error e => rfl
  | ok m => simp only [Name.same, Name.canonical_canonical]

/-- The values for a name, in their order. -/
def valuesFor (n : Name) (puts : List Put) : List TxtValue :=
  (puts.filter (·.isFor n)).map Put.value

namespace History

/-- What a key holds behind some values, if it holds anything. -/
def pushAll (h : Option History) (values : List TxtValue) : Option History :=
  values.foldl (fun h v => some ((h.getD .empty).push v)) h

/-- Of the values that a key held and the ones that came, the newest two are left. -/
theorem values_pushAll (h : Option History) (values : List TxtValue) :
    ((pushAll h values).map History.values).getD [] =
      (values.reverse ++ (h.map History.values).getD []).take 2 := by
  induction values generalizing h with
  | nil =>
    cases h with
    | none => rfl
    | some h => exact (List.take_of_length_le h.bounded).symm
  | cons v values ih =>
    have first : ((h.getD .empty).push v).values =
        (v :: (h.map History.values).getD []).take 2 := by
      cases h <;> rfl
    have step : pushAll h (v :: values) = pushAll (some ((h.getD .empty).push v)) values := rfl
    rw [step, ih, Option.map_some, Option.getD_some, first, Records.take_append_take,
      List.reverse_cons, List.append_assoc, List.singleton_append]

end History

/-! ### The text of records -/

/-- Records that look up alike have the same text, in whatever order their keys came. -/
theorem StateFile.encode_congr {r r' : Records} (alike : r.lookup = r'.lookup) {text : Text}
    (encoded : encode r = .ok text) : encode r' = .ok text := by
  have members (r : Records) :
      (r.snapshot.map fun e => (Scalar.text e.1, Value.list (e.2.map TxtValue.toValue))) =
        (r.snapshot.map fun e => (e.1, Value.list (e.2.map TxtValue.toValue))).map Json.named := by
    rw [List.map_map]
    rfl
  have names : ((r.snapshot.map fun e =>
      (e.1, Value.list (e.2.map TxtValue.toValue))).map (·.1)).Nodup := by
    rw [List.map_map]
    exact Store.nodup_snapshot r
  -- The keys came in another order, and the file sorts them by their printed names.
  have perm : r.snapshot.Perm r'.snapshot := (Records.perm_of_lookup_eq alike).map _
  rw [encode, members] at *
  exact Json.write_eq_of_perm rfl (perm.map _) names encoded

namespace Store

/-- Publishes values one after the other. -/
def putAll (s : Store) : List Put → Except PutError Store
  | [] => .ok s
  | p :: puts =>
    match s.put p.name p.value with
    | ⟨.ok (), t, _⟩ => t.putAll puts
    -- A value that could not be saved is in memory; such a run is none of those compared here.
    | ⟨.error e, _, _⟩ => .error e

/-- Two stores that nobody can tell apart. -/
structure Indistinguishable (s t : Store) : Prop where
  get : ∀ name, s.get name = t.get name
  size : s.records.size = t.records.size
  -- Octet by octet, or there is no file on either side.
  file : s.file = t.file

/-! ### One publication -/

/-- A publication that reports success has a key, and is saved. -/
theorem put_ok {s : Store} {p : Put} (done : (s.put p.name p.value).result = .ok ()) :
    ∃ n k, p.name.read = .ok n ∧ Key.ofName n = .ok k ∧
      PutSaved s (s.records.put k p.value) (s.put p.name p.value).state := by
  cases read : p.name.read with
  | error e => simp [put, Key.ofGiven, read] at done
  | ok n =>
    cases key : Key.ofName n with
    | error e => simp [put, Key.ofGiven, read, key] at done
    | ok k =>
      refine ⟨n, k, rfl, key, ?_⟩
      simp only [put, Key.ofGiven, read, key] at done ⊢
      rcases putKey_cases s k p.value with ⟨_, saved⟩ | ⟨e, failed, _⟩
      · exact saved
      · simp [failed, Except.mapError] at done

theorem putAll_cons {s t : Store} {p : Put} {puts : List Put}
    (done : s.putAll (p :: puts) = .ok t) :
    (s.put p.name p.value).result = .ok () ∧ (s.put p.name p.value).state.putAll puts = .ok t := by
  rw [putAll] at done
  split at done
  next put => exact ⟨by rw [put], by rwa [put]⟩
  next => cases done

theorem isFor_iff {p : Put} {n : Name} {k l : Key} (read : p.name.read = .ok n)
    (key : Key.ofName n = .ok k) : p.isFor l.name = true ↔ k = l := by
  simp only [Put.isFor, read]
  exact (Key.eq_iff_same key (Key.ofName_name l)).symm

/-! ### Many publications -/

/-- What a key holds behind some publications depends on the values for its name alone. -/
theorem lookup_putAll {s t : Store} {puts : List Put} (done : s.putAll puts = .ok t) (k : Key) :
    t.records.lookup k = History.pushAll (s.records.lookup k) (valuesFor k.name puts) := by
  -- By induction on the publications; the store is generalized, since the first one changes it.
  induction puts generalizing s with
  | nil =>
    cases done
    rfl
  | cons p puts ih =>
    obtain ⟨success, rest⟩ := putAll_cons done
    obtain ⟨n, l, read, key, saved⟩ := put_ok success
    rw [ih rest, saved.records, Records.lookup_put, Records.history_eq]
    -- The first value is for this key, or leaves it alone.
    by_cases here : l = k
    · have first : p.isFor k.name = true := (isFor_iff read key).mpr here
      simp [valuesFor, History.pushAll, first, here]
    · have other : ¬p.isFor k.name = true := fun isFor => here ((isFor_iff read key).mp isFor)
      simp [valuesFor, History.pushAll, other, here]

theorem get_putAll {s t : Store} {puts : List Put} (done : s.putAll puts = .ok t) (k : Key) :
    t.records.get k = ((valuesFor k.name puts).reverse ++ s.records.get k).take 2 := by
  rw [Records.get_eq, Records.get_eq, lookup_putAll done, History.values_pushAll]

/-- Behind at least one publication the state file is the text of the records. -/
theorem file_putAll {s t : Store} {puts : List Put} (done : s.putAll puts = .ok t) :
    t.file.isSome = s.file.isSome ∧
      (puts ≠ [] → ∀ place, t.file = some place → StateFile.Holds place t.records) := by
  induction puts generalizing s with
  | nil =>
    cases done
    exact ⟨rfl, fun some => absurd rfl some⟩
  | cons p puts ih =>
    obtain ⟨success, rest⟩ := putAll_cons done
    obtain ⟨_, _, _, _, saved⟩ := put_ok success
    obtain ⟨present, holds⟩ := ih rest
    refine ⟨present.trans saved.file_isSome, fun _ place named => ?_⟩
    -- The last publication has written the file.
    by_cases last : puts = []
    · subst last
      cases rest
      exact saved.holds named
    · exact holds last place named

theorem putAll_eq_nil {s t : Store} {puts : List Put} (done : s.putAll puts = .ok t)
    (none : ∀ n, valuesFor n puts = []) : puts = [] := by
  cases puts with
  | nil => rfl
  | cons p puts =>
    -- A publication with success has a name, and its value is for that name.
    obtain ⟨n, _, read, _⟩ := put_ok (putAll_cons done).1
    have first : p.isFor n = true := by simp [Put.isFor, read, Name.same_refl]
    have values := none n
    simp [valuesFor, first] at values

theorem file_congr {t u : Store} (alike : t.records.lookup = u.records.lookup)
    (present : t.file.isSome = u.file.isSome)
    (left : ∀ place, t.file = some place → StateFile.Holds place t.records)
    (right : ∀ place, u.file = some place → StateFile.Holds place u.records) :
    t.file = u.file := by
  cases first : t.file with
  | none =>
    rw [first, Option.isSome_none, eq_comm, Option.isSome_eq_false_iff, Option.isNone_iff_eq_none]
      at present
    exact present.symm
  | some place =>
    cases second : u.file with
    | none => simp [first, second] at present
    | some other =>
      obtain ⟨text, encoded, rfl⟩ := left place first
      obtain ⟨text', encoded', rfl⟩ := right other second
      have same := (StateFile.encode_congr alike encoded).symm.trans encoded'
      cases same
      rfl

theorem indistinguishable_of_values {s t u : Store} {puts others : List Put}
    (left : s.putAll puts = .ok t) (right : s.putAll others = .ok u)
    (same : ∀ n, valuesFor n puts = valuesFor n others) : Indistinguishable t u := by
  have alike : t.records.lookup = u.records.lookup := by
    funext k
    rw [lookup_putAll left, lookup_putAll right, same]
  refine ⟨get_of_alike alike, (Records.perm_of_lookup_eq alike).length_eq, ?_⟩
  by_cases none : puts = []
  · -- Without values nothing is published on the other side either.
    subst none
    have empty : others = [] := putAll_eq_nil right fun n => (same n).symm
    subst empty
    cases left
    cases right
    rfl
  · have some : others ≠ [] := by
      rintro rfl
      exact none (putAll_eq_nil left same)
    obtain ⟨before, first⟩ := file_putAll left
    obtain ⟨before', second⟩ := file_putAll right
    exact file_congr alike (before.trans before'.symm) (first none) (second some)

/-- Nothing is published under a relative name. -/
theorem valuesFor_relative {s t : Store} {puts : List Put} (done : s.putAll puts = .ok t) {n : Name}
    (relative : n.absolute = false) : valuesFor n puts = [] := by
  induction puts generalizing s with
  | nil => rfl
  | cons p puts ih =>
    obtain ⟨success, rest⟩ := putAll_cons done
    obtain ⟨m, k, read, key, _⟩ := put_ok success
    have absolute : m.absolute = true := by
      have names := Key.ofName_ok key
      have kept := k.absolute
      rw [names] at kept
      exact kept
    have other : ¬p.isFor n = true := by
      simp only [Put.isFor, read]
      intro same
      rw [Name.same_absolute same, relative] at absolute
      cases absolute
    simpa [valuesFor, other] using ih rest

theorem get_name_putAll {s t : Store} {puts : List Put} (done : s.putAll puts = .ok t)
    {name : Name.Given} {n : Name} (read : name.read = .ok n) :
    t.get name = ((valuesFor n puts).reverse ++ s.get name).take 2 := by
  simp only [get, Key.ofGiven, read]
  -- Only absolute names have a key; a relative one had nothing and gets nothing.
  by_cases absolute : n.absolute = true
  · obtain ⟨k, key⟩ := Key.ofName_of_absolute absolute
    have values : valuesFor n puts = valuesFor k.name puts := by
      simp only [valuesFor, Key.ofName_ok key, Put.isFor_canonical]
    simp only [key]
    rw [get_putAll done k, values]
  · have none := valuesFor_relative done (Bool.not_eq_true _ ▸ absolute)
    simp [Key.ofName, dif_neg absolute, none]

theorem valuesFor_swap {p q : Put} {m n : Name} (left : p.name.read = .ok m)
    (right : q.name.read = .ok n) (apart : m.same n = false) (k : Name) :
    valuesFor k [p, q] = valuesFor k [q, p] := by
  have first : p.isFor k = m.same k := by simp only [Put.isFor, left]
  have second : q.isFor k = n.same k := by simp only [Put.isFor, right]
  by_cases here : m.same k = true
  · -- If one value is for `k`, the other one is not.
    have other : n.same k = false := by
      rw [Name.same_comm, ← Name.same_congr here, apart]
    simp [valuesFor, first, second, here, other]
  · simp [valuesFor, List.filter_cons, first, here]

/-- How publications under different names are interleaved makes no difference.  From any store, two
sequences of successful publications with the same values for each name, in the same order, end in
stores that cannot be told apart.  So publications under two names commute, and a name has the
newest two of its own values and of those that it had. -/
theorem interleaving_irrelevant (s : Store) :
    (∀ puts others t u, s.putAll puts = .ok t → s.putAll others = .ok u →
      (∀ n, valuesFor n puts = valuesFor n others) → Indistinguishable t u) ∧
    (∀ p q m n t u, p.name.read = .ok m → q.name.read = .ok n → m.same n = false →
      s.putAll [p, q] = .ok t → s.putAll [q, p] = .ok u → Indistinguishable t u) ∧
    ∀ puts t name n, s.putAll puts = .ok t → name.read = .ok n →
      t.get name = ((valuesFor n puts).reverse ++ s.get name).take 2 := by
  refine ⟨fun _ _ _ _ left right same => indistinguishable_of_values left right same, ?_, ?_⟩
  · intro p q m n t u first second apart left right
    exact indistinguishable_of_values left right (valuesFor_swap first second apart)
  · intro puts t name n done read
    exact get_name_putAll done read

/-- Two values for one name in two spellings and one for another name, in two orders. -/
def samplePuts : List Put × List Put :=
  ([⟨.text "a.", .text "x"⟩, ⟨.text "b.", .text "y"⟩, ⟨.text "A.", .text "z"⟩],
    [⟨.text "b.", .text "y"⟩, ⟨.text "A.", .text "x"⟩, ⟨.text "a.", .text "z"⟩])

theorem interleaving_irrelevant_sample :
    let s : Store := ⟨.empty, some emptyDisk⟩
    ∃ t u, s.putAll samplePuts.1 = .ok t ∧ s.putAll samplePuts.2 = .ok u ∧ t.file = u.file ∧
      t.file.isSome = true ∧ t.records.size = u.records.size ∧
      t.get (.text "a.") = [.text "z", .text "x"] ∧
      u.get (.text "B.") = t.get (.text "B.") := by
  intro s
  obtain ⟨t, left⟩ : ∃ t, s.putAll samplePuts.1 = .ok t := ⟨_, by cbv⟩
  obtain ⟨u, right⟩ : ∃ u, s.putAll samplePuts.2 = .ok u := ⟨_, by cbv⟩
  let a : Name := ⟨[[97]], true, by decide, by decide⟩
  let upper : Name := ⟨[[65]], true, by decide, by decide⟩
  have lowerRead : Name.readRelative "a." = .ok a := by cbv
  let b : Name := ⟨[[98]], true, by decide, by decide⟩
  have upperRead : Name.readRelative "A." = .ok upper := by cbv
  have otherRead : Name.readRelative "b." = .ok b := by cbv
  have same (n : Name) : valuesFor n samplePuts.1 = valuesFor n samplePuts.2 := by
    have spellings : upper.same n = a.same n := Name.same_congr (by decide) n
    have both (here : a.same n = true) : b.same n = false := by
      rw [Name.same_comm, ← Name.same_congr here]
      decide
    simp only [valuesFor, samplePuts, List.filter_cons, Put.isFor, Name.Given.read, lowerRead,
      upperRead, otherRead, spellings, List.filter_nil]
    cases here : a.same n with
    | true => simp [both here]
    | false => cases b.same n <;> simp
  obtain ⟨agree, _, history⟩ := interleaving_irrelevant s
  have alike := agree _ _ t u left right same
  have written : t.file.isSome = true := (file_putAll left).1
  have values := history _ t (.text "a.") a left lowerRead
  refine ⟨t, u, left, right, alike.file, written, alike.size, ?_, (alike.get _).symm⟩
  have own : valuesFor a samplePuts.1 = [.text "x", .text "z"] := by cbv
  rw [values, own]
  rfl

end Store

end ChallengeDns
