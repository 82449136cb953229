import Mathlib.Data.List.Basic
import PluginKit.Json.Draft
import PluginKit.Json.Printer

/-!
# Strings are read back

What is written between quotes ends at the closing quote and nowhere before it, and stands for the
text that it was written for:

    Token.string? (escape text ++ '"' :: rest) = some (escape text, rest)         (string?_escape)
    Draft.unescape? (escape text) = some text                                   (unescape?_escape)
-/

namespace PluginKit.Json

/-- A text as it stands between quotes. -/
def escape (text : List Char) : List Char :=
  text.flatMap escapeChar

theorem escape_cons (c : Char) (text : List Char) :
    escape (c :: text) = escapeChar c ++ escape text :=
  List.flatMap_cons

/-! ## One character -/

/-- The characters that are written as a letter behind a backslash, with this letter. -/
def letters : List (Char × Char) :=
  [('"', '"'), ('\\', '\\'), ('\x08', 'b'), ('\x0c', 'f'), ('\n', 'n'), ('\r', 'r'), ('\t', 't')]

/-- A character is written as a letter behind a backslash, by its number, or as it is. -/
theorem escapeChar_cases (c : Char) :
    (∃ letter, (c, letter) ∈ letters ∧ escapeChar c = ['\\', letter]) ∨
    (c.toNat < 0x20 ∧
      escapeChar c = ['\\', 'u', '0', '0', hexChar (c.toNat / 16), hexChar (c.toNat % 16)]) ∨
    (c ≠ '"' ∧ c ≠ '\\' ∧ ¬ c.toNat < 0x20 ∧ escapeChar c = [c]) := by
  by_cases hletter : c ∈ letters.map Prod.fst
  · obtain ⟨⟨d, letter⟩, hmem, rfl⟩ := List.mem_map.1 hletter
    refine .inl ⟨letter, hmem, ?_⟩
    unfold letters at hmem
    simp only [List.mem_cons, Prod.mk.injEq, List.not_mem_nil, or_false] at hmem
    rcases hmem with ⟨rfl, rfl⟩ | ⟨rfl, rfl⟩ | ⟨rfl, rfl⟩ | ⟨rfl, rfl⟩ | ⟨rfl, rfl⟩ | ⟨rfl, rfl⟩ |
      ⟨rfl, rfl⟩ <;> rfl
  · simp only [letters, List.map_cons, List.map_nil, List.mem_cons, List.not_mem_nil, or_false,
      not_or] at hletter
    obtain ⟨hquote, hbackslash, hb, hf, hn, hr, ht⟩ := hletter
    have hrest : escapeChar c = if c.toNat < 0x20 then
        ['\\', 'u', '0', '0', hexChar (c.toNat / 16), hexChar (c.toNat % 16)] else [c] := by
      unfold escapeChar
      simp only [if_neg hquote, if_neg hbackslash, if_neg hb, if_neg hf, if_neg hn, if_neg hr,
        if_neg ht]
    rw [hrest]
    by_cases hsmall : c.toNat < 0x20
    · exact .inr (.inl ⟨hsmall, if_pos hsmall⟩)
    · exact .inr (.inr ⟨hquote, hbackslash, hsmall, if_neg hsmall⟩)

/-- Digits are written as they are. -/
theorem escape_write (n : Nat) : escape (Numeral.write n) = Numeral.write n := by
  have hchar : ∀ c ∈ Numeral.write n, escapeChar c = [c] := by
    intro c hc
    have hdigit : 48 ≤ c.toNat ∧ c.toNat ≤ 57 :=
      Char.isDigit_iff_toNat.1 (Numeral.isDigit_of_mem_write hc)
    rcases escapeChar_cases c with ⟨letter, hmem, -⟩ | ⟨hsmall, -⟩ | ⟨-, -, -, h⟩
    · have hletter : ∀ entry ∈ letters, ¬ (48 ≤ entry.1.toNat ∧ entry.1.toNat ≤ 57) := by decide
      exact absurd hdigit (hletter _ hmem)
    · omega
    · exact h
  unfold escape
  rw [List.flatMap_congr hchar, List.flatMap_singleton']

theorem isHex_hexChar {n : Nat} (h : n < 16) : Token.isHex (hexChar n) = true := by
  have hall : ∀ n < 16, Token.isHex (hexChar n) = true := by decide
  exact hall n h

/-- The four digits of a small number stand for it. -/
theorem codeUnit_hexChar {n : Nat} (h : n < 0x20) :
    Draft.codeUnit '0' '0' (hexChar (n / 16)) (hexChar (n % 16)) = n := by
  have hall : ∀ n < 0x20, Draft.codeUnit '0' '0' (hexChar (n / 16)) (hexChar (n % 16)) = n := by
    decide
  exact hall n h

/-! ## Where a string ends -/

theorem string?_escapeChar (c : Char) (text : List Char) :
    Token.string? (escapeChar c ++ text) =
      (Token.string? text).map fun (raw, after) => (escapeChar c ++ raw, after) := by
  rcases escapeChar_cases c with ⟨letter, hmem, heq⟩ | ⟨hsmall, heq⟩ |
    ⟨hquote, hbackslash, hlarge, heq⟩
  · rw [heq]
    unfold letters at hmem
    simp only [List.mem_cons, Prod.mk.injEq, List.not_mem_nil, or_false] at hmem
    rcases hmem with ⟨rfl, rfl⟩ | ⟨rfl, rfl⟩ | ⟨rfl, rfl⟩ | ⟨rfl, rfl⟩ | ⟨rfl, rfl⟩ | ⟨rfl, rfl⟩ |
      ⟨rfl, rfl⟩ <;> simp [Token.string?]
  · have hhigh : Token.isHex (hexChar (c.toNat / 16)) = true := isHex_hexChar (by omega)
    have hlow : Token.isHex (hexChar (c.toNat % 16)) = true := isHex_hexChar (by omega)
    have hzero : Token.isHex '0' = true := by decide
    rw [heq]
    simp [Token.string?, hhigh, hlow, hzero]
  · rw [heq]
    simp [Token.string?, hbackslash, hlarge]

theorem string?_escape (text rest : List Char) :
    Token.string? (escape text ++ '"' :: rest) = some (escape text, rest) := by
  induction text with
  | nil => simp [escape, Token.string?]
  | cons c text ih =>
    rw [escape_cons, List.append_assoc, string?_escapeChar, ih]
    rfl

/-! ## What a string stands for -/

theorem unescape?_number {a b c d : Char} (rest : List Char)
    (hlead : Draft.isLead (Draft.codeUnit a b c d) = false)
    (htrail : Draft.isTrail (Draft.codeUnit a b c d) = false) :
    Draft.unescape? ('\\' :: 'u' :: a :: b :: c :: d :: rest) =
      (Draft.unescape? rest).map (Char.ofNat (Draft.codeUnit a b c d) :: ·) := by
  by_cases hpair : ∃ e f g h tail, rest = '\\' :: 'u' :: e :: f :: g :: h :: tail
  · -- another number follows, but the first is not half of a pair
    obtain ⟨e, f, g, h, tail, rfl⟩ := hpair
    rw [Draft.unescape?.eq_2, hlead, htrail]
    rfl
  · rw [Draft.unescape?, hlead, htrail]
    · rfl
    · intro e f g h tail heq
      exact hpair ⟨e, f, g, h, tail, heq⟩

theorem unescape?_escapeChar (c : Char) (text : List Char) :
    Draft.unescape? (escapeChar c ++ text) = (Draft.unescape? text).map (c :: ·) := by
  rcases escapeChar_cases c with ⟨letter, hmem, heq⟩ | ⟨hsmall, heq⟩ |
    ⟨hquote, hbackslash, hlarge, heq⟩
  · rw [heq]
    unfold letters at hmem
    simp only [List.mem_cons, Prod.mk.injEq, List.not_mem_nil, or_false] at hmem
    rcases hmem with ⟨rfl, rfl⟩ | ⟨rfl, rfl⟩ | ⟨rfl, rfl⟩ | ⟨rfl, rfl⟩ | ⟨rfl, rfl⟩ | ⟨rfl, rfl⟩ |
      ⟨rfl, rfl⟩ <;> simp [Draft.unescape?, Draft.escaped]
  · have hunit := codeUnit_hexChar hsmall
    have hlead : Draft.isLead c.toNat = false := by
      simp [Draft.isLead]
      omega
    have htrail : Draft.isTrail c.toNat = false := by
      simp [Draft.isTrail]
      omega
    rw [← hunit] at hlead htrail
    rw [heq]
    refine (unescape?_number text hlead htrail).trans ?_
    rw [hunit, Char.ofNat_toNat]
  · rw [heq]
    simp [Draft.unescape?, hbackslash]

theorem unescape?_escape (text : List Char) : Draft.unescape? (escape text) = some text := by
  induction text with
  | nil => rfl
  | cons c text ih =>
    rw [escape_cons, unescape?_escapeChar, ih]
    rfl

theorem text?_escape (text : String) : Draft.text? (escape text.toList) = some text := by
  unfold Draft.text?
  rw [unescape?_escape]
  exact congrArg some String.ofList_toList

end PluginKit.Json
