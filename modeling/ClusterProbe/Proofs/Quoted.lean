import ClusterProbe.Text.Quoted
import Mathlib.Data.List.Basic

/-!
# Quoted text read back

What a character is written as tells which character it is and where it ends, so a text can be read
back from its quoted form.  Between the outer marks there are only visible characters, and a mark
only behind a backslash.
-/

namespace ClusterProbe.Text

/-! ## Hexadecimal numbers -/

/-- The number below sixteen that a lower-case hexadecimal digit stands for. -/
def hexValue (c : Char) : Nat :=
  ['0', '1', '2', '3', '4', '5', '6', '7', '8', '9', 'a', 'b', 'c', 'd', 'e', 'f'].idxOf c

theorem hexValue_hexDigit {d : Nat} (h : d < 16) : hexValue (hexDigit d) = d := by
  revert d
  decide

theorem exists_hexDigit {n : Nat} {c : Char} (h : c ∈ hex n) : ∃ d < 16, hexDigit d = c := by
  unfold hex at h
  split at h
  · rw [List.mem_singleton.1 h]
    exact ⟨0, by decide, rfl⟩
  · obtain ⟨d, hd, rfl⟩ := List.mem_map.1 h
    exact ⟨d, Radix.lt_of_mem_digits (by decide) hd, rfl⟩

theorem value_hex (n : Nat) : Radix.value 16 ((hex n).map hexValue) = n := by
  unfold hex
  split
  · next hn =>
    rw [hn]
    rfl
  · have hdigits : ((Radix.digits 16 n).map hexDigit).map hexValue = Radix.digits 16 n := by
      rw [List.map_map, List.map_congr_left, List.map_id]
      intro d hd
      exact hexValue_hexDigit (Radix.lt_of_mem_digits (by decide) hd)
    rw [hdigits, Radix.value_digits (by decide)]

/-! ## Reading a character -/

/-- The character that stands behind a backslash. -/
def unescaped (c : Char) : Char :=
  if c = '0' then '\x00'
  else if c = 't' then '\t'
  else if c = 'r' then '\r'
  else if c = 'n' then '\n'
  else c

/-- Reads a code point up to the closing brace. -/
def codePoint (cs : List Char) : Char × List Char :=
  (Char.ofNat (Radix.value 16 ((cs.takeWhile (· ≠ '\x7d')).map hexValue)),
    (cs.dropWhile (· ≠ '\x7d')).tail)

/-- Reads what one character is written as, and gives the character and what follows it. -/
def unescape : List Char → Option (Char × List Char)
  | [] => none
  | c :: cs =>
    if c = '\\' then
      match cs with
      | [] => none
      | d :: ds => some (if d = 'u' then codePoint ds.tail else (unescaped d, ds))
    else some (c, cs)

theorem codePoint_hex (n : Nat) (rest : List Char) :
    codePoint (hex n ++ '\x7d' :: rest) = (Char.ofNat n, rest) := by
  have hdigits : ∀ c ∈ hex n, decide (c ≠ '\x7d') = true := by
    intro c hc
    obtain ⟨d, hd, rfl⟩ := exists_hexDigit hc
    have hbrace : ∀ d < 16, hexDigit d ≠ '\x7d' := by decide
    exact decide_eq_true (hbrace d hd)
  unfold codePoint
  rw [List.takeWhile_append_of_pos hdigits, List.dropWhile_append_of_pos hdigits]
  simp [value_hex]

/-- A character is read back from what it is written as, whatever follows. -/
theorem unescape_escape (c : Char) (rest : List Char) :
    unescape (escape '"' c ++ rest) = some (c, rest) := by
  unfold escape
  split_ifs with hnul htab hreturn hnewline hmark hplain
  · rw [hnul]; rfl
  · rw [htab]; rfl
  · rw [hreturn]; rfl
  · rw [hnewline]; rfl
  · rcases hmark with rfl | rfl <;> rfl
  · simp [unescape, (not_or.1 hmark).2]
  · have hread := codePoint_hex c.toNat rest
    rw [Char.ofNat_toNat] at hread
    simp [unescape, hread]

theorem flatMap_escape_inj {s t : List Char} :
    s.flatMap (escape '"') = t.flatMap (escape '"') ↔ s = t := by
  refine ⟨fun h => ?_, fun h => h ▸ rfl⟩
  -- Each character is read off both sides in turn.
  induction s generalizing t with
  | nil =>
    cases t with
    | nil => rfl
    | cons d t =>
      have hread := unescape_escape d (t.flatMap (escape '"'))
      rw [← List.flatMap_cons, ← h] at hread
      cases hread
  | cons c s ih =>
    have hread := unescape_escape c (s.flatMap (escape '"'))
    rw [← List.flatMap_cons, h] at hread
    cases t with
    | nil => cases hread
    | cons d t =>
      rw [List.flatMap_cons, unescape_escape, Option.some.injEq, Prod.mk.injEq] at hread
      obtain ⟨rfl, hrest⟩ := hread
      rw [ih hrest.symm]

theorem quoted_inj {s t : String} : quoted s = quoted t ↔ s = t := by
  unfold quoted
  rw [String.ofList_inj, List.append_cancel_right_eq, List.cons.injEq, flatMap_escape_inj,
    String.toList_inj]
  simp

/-! ## Between the marks -/

/-- A mark stands only behind a backslash that stands for nothing itself. -/
inductive Escaped (mark : Char) : List Char → Prop where
  | nil : Escaped mark []
  | single {c : Char} {cs : List Char} (marks : c ≠ mark) (escapes : c ≠ '\\')
      (rest : Escaped mark cs) : Escaped mark (c :: cs)
  | pair {c : Char} {cs : List Char} (rest : Escaped mark cs) : Escaped mark ('\\' :: c :: cs)

/-- Characters that control a display: those below the space, the delete character, and the 32 ones
after it. -/
def IsControl (c : Char) : Prop := c.toNat < 0x20 ∨ 0x7F ≤ c.toNat ∧ c.toNat < 0xA0

theorem not_isControl_of_isPlain {c : Char} (h : isPlain c = true) : ¬ IsControl c := by
  unfold isPlain at h
  rintro (hlow | ⟨hlow, hhigh⟩)
  · rw [if_pos (by omega), decide_eq_true_iff] at h
    omega
  · split at h
    · rw [decide_eq_true_iff] at h
      omega
    · next hbeyond =>
      have hmem : (0x80, 0xA0) ∈ hidden := List.mem_append_left _ (by simp [hiddenA])
      have hhidden : inRanges hidden c = true :=
        List.any_eq_true.2 ⟨_, hmem, decide_eq_true (by omega)⟩
      rw [hhidden] at h
      cases h

theorem isPlain_hexDigit {d : Nat} (h : d < 16) : isPlain (hexDigit d) = true := by
  revert d
  decide

theorem isPlain_of_all {shown : Char} {cs : List Char} (hcs : cs.all isPlain = true)
    (h : shown ∈ cs) : isPlain shown = true :=
  List.all_eq_true.1 hcs shown h

theorem isPlain_of_mem_escape {c shown : Char} (h : shown ∈ escape '"' c) :
    isPlain shown = true := by
  unfold escape at h
  split_ifs at h with hnul htab hreturn hnewline hmark hplain
  · exact isPlain_of_all (by decide) h
  · exact isPlain_of_all (by decide) h
  · exact isPlain_of_all (by decide) h
  · exact isPlain_of_all (by decide) h
  · rcases hmark with rfl | rfl <;> exact isPlain_of_all (by decide) h
  · rw [List.mem_singleton.1 h]
    exact hplain
  · rw [List.mem_append, List.mem_append] at h
    rcases h with (h | h) | h
    · exact isPlain_of_all (by decide) h
    · obtain ⟨d, hd, rfl⟩ := exists_hexDigit h
      exact isPlain_hexDigit hd
    · exact isPlain_of_all (by decide) h

namespace Escaped

variable {mark : Char}

theorem append_of_forall {cs rest : List Char} (hcs : ∀ c ∈ cs, c ≠ mark ∧ c ≠ '\\')
    (h : Escaped mark rest) : Escaped mark (cs ++ rest) := by
  induction cs with
  | nil => exact h
  | cons c cs ih =>
    have hc := List.forall_mem_cons.1 hcs
    exact .single hc.1.1 hc.1.2 (ih hc.2)

/-- What a character is written as leaves no mark open. -/
theorem escape_append (c : Char) {rest : List Char} (h : Escaped '"' rest) :
    Escaped '"' (escape '"' c ++ rest) := by
  unfold escape
  split_ifs with hnul htab hreturn hnewline hmark hplain
  · exact .pair h
  · exact .pair h
  · exact .pair h
  · exact .pair h
  · exact .pair h
  · exact .single (not_or.1 hmark).1 (not_or.1 hmark).2 h
  · have hbehind : ∀ d ∈ '\x7b' :: hex c.toNat ++ ['\x7d'], d ≠ '"' ∧ d ≠ '\\' := by
      intro d hd
      rw [List.cons_append, List.mem_cons, List.mem_append, List.mem_singleton] at hd
      rcases hd with rfl | hd | rfl
      · decide
      · obtain ⟨n, hn, rfl⟩ := exists_hexDigit hd
        have hdigit : ∀ n < 16, hexDigit n ≠ '"' ∧ hexDigit n ≠ '\\' := by decide
        exact hdigit n hn
      · decide
    exact .pair (append_of_forall hbehind h)

theorem flatMap_escape (cs : List Char) : Escaped '"' (cs.flatMap (escape '"')) := by
  induction cs with
  | nil => exact .nil
  | cons c cs ih => exact escape_append c ih

end Escaped

/-- Between its outer marks a quoted text has no open mark and no control character. -/
theorem exists_body_quoted (text : String) :
    ∃ body, (quoted text).toList = '"' :: body ++ ['"'] ∧ Escaped '"' body ∧
      ∀ c ∈ body, ¬ IsControl c := by
  refine ⟨_, String.toList_ofList, Escaped.flatMap_escape _, fun c hc => ?_⟩
  obtain ⟨d, -, hd⟩ := List.mem_flatMap.1 hc
  exact not_isControl_of_isPlain (isPlain_of_mem_escape hd)

end ClusterProbe.Text
