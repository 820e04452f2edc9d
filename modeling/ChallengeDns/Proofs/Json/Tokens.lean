import Mathlib
import ChallengeDns.Proofs.Json.Pairs

/-!
# Tokens of written JSON

The pieces of which a written text consists, with the tokens that they are read as.  A piece is read
alike wherever it stands and whatever follows it.
-/
namespace ChallengeDns.Json

/-- A piece of text is read as some tokens, wherever it stands. -/
def Lexes (piece : Text) (ts : List Token) : Prop :=
  ∀ pos rest, ∃ placed : List (Nat × Token), placed.map (·.2) = ts ∧
    tokensFrom pos 0 (piece ++ rest) = placed ++ tokensFrom (pos + piece.length) 0 rest

theorem Lexes.nil : Lexes [] [] := fun _ _ => ⟨[], rfl, rfl⟩

/-- What follows a piece is read where the piece ends. -/
theorem exists_placed_append {pos : Nat} {p q rest : Text} {ts us : List Token}
    (first : ∃ placed : List (Nat × Token), placed.map (·.2) = ts ∧
      tokensFrom pos 0 (p ++ (q ++ rest)) =
        placed ++ tokensFrom (pos + p.length) 0 (q ++ rest))
    (second : ∃ placed : List (Nat × Token), placed.map (·.2) = us ∧
      tokensFrom (pos + p.length) 0 (q ++ rest) =
        placed ++ tokensFrom (pos + p.length + q.length) 0 rest) :
    ∃ placed : List (Nat × Token), placed.map (·.2) = ts ++ us ∧
      tokensFrom pos 0 (p ++ q ++ rest) =
        placed ++ tokensFrom (pos + (p ++ q).length) 0 rest := by
  obtain ⟨ps, rfl, left⟩ := first
  obtain ⟨qs, rfl, right⟩ := second
  refine ⟨ps ++ qs, List.map_append, ?_⟩
  rw [List.append_assoc, left, right, List.append_assoc, List.length_append, Nat.add_assoc]

theorem Lexes.append {p q : Text} {ts us : List Token} (first : Lexes p ts) (second : Lexes q us) :
    Lexes (p ++ q) (ts ++ us) :=
  fun _ _ => exists_placed_append (first _ _) (second _ _)

theorem Lexes.blank {c : CodePoint} (blank : isBlank c = true) : Lexes [c] [] := by
  intro pos rest
  refine ⟨[], rfl, ?_⟩
  rw [List.singleton_append, tokensFrom, if_pos blank]
  rfl

theorem Lexes.blanks {t : Text} (blank : ∀ c ∈ t, isBlank c = true) : Lexes t [] := by
  induction t with
  | nil => exact .nil
  | cons c t ih =>
    obtain ⟨first, rest⟩ := List.forall_mem_cons.mp blank
    exact (Lexes.blank first).append (ih rest)

theorem Lexes.mark {c : CodePoint} {token : Token} (visible : isBlank c = false)
    (marks : ∀ pos rest, tokenAt pos c rest = (token, 1)) (goesOn : token.isLast = false) :
    Lexes [c] [token] := by
  intro pos rest
  refine ⟨[(pos, token)], rfl, ?_⟩
  rw [List.singleton_append, tokensFrom, if_neg (by simp [visible]), marks]
  simp only [goesOn, Bool.false_eq_true, if_false]
  rfl

theorem tokensFrom_skip (pos : Nat) (piece rest : Text) :
    tokensFrom pos piece.length (piece ++ rest) = tokensFrom (pos + piece.length) 0 rest := by
  induction piece generalizing pos with
  | nil => rfl
  | cons c piece ih =>
    rw [List.length_cons, List.cons_append, tokensFrom, ih, Nat.add_right_comm]
    rfl

/-- A written text is one token, and its halves are joined in it. -/
theorem Lexes.joined (t : Text) : Lexes (stringText t) [.scalar (.text t.joined)] := by
  intro pos rest
  refine ⟨[(pos, .scalar (.text t.joined))], rfl, ?_⟩
  have written : stringText t ++ rest =
      .scalar '"' :: (t.flatMap stringPoint ++ .scalar '"' :: rest) := by
    simp [stringText]
  have token : tokenAt pos (.scalar '"') (t.flatMap stringPoint ++ .scalar '"' :: rest) =
      (.scalar (.text t.joined), (t.flatMap stringPoint).length + 2) := by
    simp only [tokenAt, string_flatMap, Prod.mk.injEq, true_and]
    omega
  -- What belongs to the token is its body and the closing quote.
  have skipped : tokensFrom (pos + 1) ((t.flatMap stringPoint).length + 1)
      (t.flatMap stringPoint ++ .scalar '"' :: rest) =
        tokensFrom (pos + (stringText t).length) 0 rest := by
    have body := tokensFrom_skip (pos + 1) (t.flatMap stringPoint ++ [CodePoint.scalar '"']) rest
    rw [List.append_assoc, List.length_append] at body
    have place : pos + 1 + ((t.flatMap stringPoint).length + 1) = pos + (stringText t).length := by
      simp only [stringText, List.length_cons, List.length_append, List.length_nil]
      omega
    rw [← place]
    exact body
  rw [written, tokensFrom, if_neg (by decide), token]
  exact congrArg _ skipped

theorem Lexes.text {t : Text} (joined : t.IsJoined) : Lexes (stringText t) [.scalar (.text t)] := by
  have same := Lexes.joined t
  rwa [Text.joined_of_isJoined joined] at same

/-! ### Texts among the tokens -/

theorem number?_not_text {raw t : Text} {length : Nat} :
    number? raw ≠ some (.scalar (.text t), length) := by
  intro read
  unfold number? at read
  extract_lets negative unsigned digits rest fraction behind at read
  split at read
  · cases read
  · dsimp only at read
    split at read
    · split at read <;> cases read
    · cases read

theorem literals_not_text {l : Text × Scalar} (member : l ∈ literals) (t : Text) :
    l.2 ≠ .text t := by
  simp only [literals, List.mem_cons, List.not_mem_nil, or_false] at member
  rcases member with rfl | rfl | rfl | rfl | rfl | rfl <;> nofun

/-- A text that is a token of a text without surrogates is joined. -/
theorem tokenAt_joined {pos : Nat} {c : CodePoint} {rest t : Text} {length : Nat}
    (whole : Text.IsWhole rest) (read : tokenAt pos c rest = (.scalar (.text t), length)) :
    t.IsJoined := by
  unfold tokenAt at read
  split at read
  -- Among the tokens only a quoted string is a text; every other branch gives another scalar.
  case h_7 =>
    cases body : string pos (pos + 1) [] none .plain rest with
    | mk token stop =>
      simp only [body, Prod.mk.injEq] at read
      rw [read.1] at body
      exact string_joined whole .nil (show StringState.plain.Bounded from trivial) body
  case h_8 =>
    split at read
    · next word s found =>
      simp only [Prod.mk.injEq, Token.scalar.injEq] at read
      exact absurd read.1 (literals_not_text (List.mem_of_find?_eq_some found) t)
    · cases number : number? (c :: rest) with
      | none => simp [number] at read
      | some found =>
        simp only [number, Option.getD_some] at read
        exact absurd (number.trans (congrArg some read)) number?_not_text
  all_goals cases read

theorem tokensFrom_joined {pos skip : Nat} {raw : Text} (whole : raw.IsWhole) {p : Nat} {t : Text}
    (member : (p, Token.scalar (.text t)) ∈ tokensFrom pos skip raw) : t.IsJoined := by
  induction raw generalizing pos skip with
  | nil => cases member
  | cons c rest ih =>
    obtain ⟨_, later⟩ := List.forall_mem_cons.mp whole
    cases skip with
    | succ skip => exact ih later member
    | zero =>
      rw [tokensFrom] at member
      split at member
      · exact ih later member
      · cases read : tokenAt pos c rest with
        | mk token length =>
          rw [read] at member
          rcases List.mem_cons.mp member with first | behind
          · simp only [Prod.mk.injEq] at first
            exact tokenAt_joined later (first.2 ▸ read)
          · split at behind
            · cases behind
            · exact ih later behind

end ChallengeDns.Json
