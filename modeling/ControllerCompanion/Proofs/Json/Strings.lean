import ControllerCompanion.Json.Lexeme
import ControllerCompanion.Json.Printer

set_option autoImplicit false

/-! # Printed strings

A printed string is read back, whatever follows it: the characters that could end it or begin an
escape are escaped, and each escape stands for the character it was written for. So what is printed
tells where the string ends and what it holds. -/

namespace ControllerCompanion.Json

/-! ## Characters -/

theorem hexDigit?_digitChar {n : Nat} (h : n < 16) : hexDigit? (Nat.digitChar n) = some n := by
  have hall : ∀ n < 16, hexDigit? (Nat.digitChar n) = some n := by decide
  exact hall n h

theorem codeUnit?_digitChars {n : Nat} (h : n < 0x20) :
    codeUnit? '0' '0' (Nat.digitChar (n / 16)) (Nat.digitChar (n % 16)) = some n := by
  have hzero : hexDigit? '0' = some 0 := by decide
  have hhigh : hexDigit? (Nat.digitChar (n / 16)) = some (n / 16) :=
    hexDigit?_digitChar (by omega)
  have hlow : hexDigit? (Nat.digitChar (n % 16)) = some (n % 16) :=
    hexDigit?_digitChar (Nat.mod_lt _ (by decide))
  simp only [codeUnit?, hzero, hhigh, hlow, Option.bind_eq_bind, Option.bind_some]
  rw [Option.pure_def, Option.some.injEq]
  omega

/-- What a piece of a printed string stands for: its character, which may be given by its code
    unit if it is no surrogate. -/
def Piece.Stands (p : Piece) (c : Char) : Prop :=
  p = .char c ∨ p = .unit c.toNat ∧ c.toNat < 0x20

/-- A printed character is one piece. -/
theorem pieces_escaped (c : Char) (t : List Char) :
    ∃ p, pieces (escaped c ++ t) = (p :: (pieces t).1, (pieces t).2) ∧ p.Stands c := by
  unfold escaped
  split
  next hc => exact ⟨.char c, by simp [pieces, unescape?, hc], .inl rfl⟩
  next hquote =>
    split
    next hc => exact ⟨.char c, by simp [pieces, unescape?, hc], .inl rfl⟩
    next hbackslash =>
      split
      next hc => exact ⟨.char c, by simp [pieces, unescape?, hc], .inl rfl⟩
      split
      next hc => exact ⟨.char c, by simp [pieces, unescape?, hc], .inl rfl⟩
      split
      next hc => exact ⟨.char c, by simp [pieces, unescape?, hc], .inl rfl⟩
      split
      next hc => exact ⟨.char c, by simp [pieces, unescape?, hc], .inl rfl⟩
      split
      next hc => exact ⟨.char c, by simp [pieces, unescape?, hc], .inl rfl⟩
      split
      next hcontrol =>
        refine ⟨.unit c.toNat, ?_, .inr ⟨rfl, hcontrol⟩⟩
        simp [pieces, codeUnit?_digitChars hcontrol]
      next hplain =>
        -- no other character ends the string or begins an escape
        refine ⟨.char c, ?_, .inl rfl⟩
        rw [List.singleton_append, pieces.eq_def]
        split <;> simp_all

theorem join_cons {fault : Option Fault} {p : Piece} {c : Char} (h : p.Stands c)
    (ps : List Piece) : join fault (p :: ps) = (join fault ps).map (c :: ·) := by
  rcases h with rfl | ⟨rfl, hlow⟩
  · rfl
  · have htrailing : isTrailing c.toNat = false := by
      simp [isTrailing]
      omega
    have hleading : isLeading c.toNat = false := by
      simp [isLeading]
      omega
    rw [join.eq_def]
    simp only [htrailing, hleading, Bool.false_eq_true, if_false, Char.ofNat_toNat]

/-! ## Strings -/

/-- The pieces of a printed string, which join to it. -/
theorem exists_pieces_flatMap (s : List Char) (rest : List Char) :
    ∃ ps, pieces (s.flatMap escaped ++ '"' :: rest) = (ps, .ok rest) ∧ join none ps = .ok s := by
  induction s with
  | nil => exact ⟨[], by simp [pieces], rfl⟩
  | cons c s ih =>
      obtain ⟨ps, hps, hjoin⟩ := ih
      rw [List.flatMap_cons, List.append_assoc]
      obtain ⟨p, hp, hstands⟩ := pieces_escaped c (s.flatMap escaped ++ '"' :: rest)
      refine ⟨p :: ps, ?_, ?_⟩
      · rw [hp, hps]
      · rw [join_cons hstands, hjoin]
        rfl

/-- **A printed string is read back, and reading stops behind its quote.** -/
theorem lexString_escaped (s : List Char) (rest : List Char) :
    lexString (s.flatMap escaped ++ '"' :: rest) = ⟨.ok (String.ofList s), .ok rest⟩ := by
  obtain ⟨ps, hps, hjoin⟩ := exists_pieces_flatMap s rest
  simp only [lexString, hps, hjoin, Except.map]

theorem quote_append (s : String) (rest : List Char) :
    quote s ++ rest = '"' :: (s.toList.flatMap escaped ++ '"' :: rest) := by
  simp [quote]

theorem lexString_of_quote (s : String) (rest : List Char) :
    lexString (s.toList.flatMap escaped ++ '"' :: rest) = ⟨.ok s, .ok rest⟩ := by
  rw [lexString_escaped, String.ofList_toList]

/-- Two texts that begin with printed strings are the same only if the strings are. -/
theorem eq_of_quote_append {s t : String} {a b : List Char} (h : quote s ++ a = quote t ++ b) :
    s = t := by
  rw [quote_append, quote_append] at h
  have hs := lexString_of_quote s a
  rw [(List.cons.inj h).2, lexString_of_quote] at hs
  exact (Except.ok.inj (congrArg Lexeme.value hs)).symm

end ControllerCompanion.Json
