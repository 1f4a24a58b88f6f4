import ClusterProbe.Proofs.CommandLine.Grammar
import ClusterProbe.Proofs.Decimal.Words

/-!
# Counts on a command line

Three settings take a count.  Each of them takes a text as the number that the text gives, or
refuses it for a reason that the text alone decides.  Wherever on a line the text stands, the line
goes on with that number or is refused for that reason.
-/

namespace ClusterProbe.CommandLine

/-- A setting that takes a count. -/
inductive CountSetting where
  | multiplier
  | timeout
  | interval

namespace CountSetting

def toSetting : CountSetting → Setting
  | multiplier => .multiplier
  | timeout => .timeout
  | interval => .interval

def choice : CountSetting → UInt64 → Choice
  | multiplier => .multiplier
  | timeout => .timeout
  | interval => .interval

end CountSetting

/-! ## Values on a line -/

/-- In front of these arguments a value that stands apart is looked at at once. -/
def Closes (rest : List Argument) : Prop :=
  rest = [] ∨ rest = [[0x2D, 0x2D]] ∨
    ∃ next value argument others, Opens next value argument ∧ rest = argument :: others

/-- The line gives the value to the setting, behind choices of other settings; the value is looked
at before anything behind it. -/
inductive Assigns (setting : Setting) (value : Argument) (chosen : List Choice)
    (after : List Argument) : List Argument → Prop
  | intro (before spelling : List Argument) (hbefore : Line chosen before)
      (hunclosed : [0x2D, 0x2D] ∉ before)
      (hnodup : (setting :: chosen.map Choice.setting).Nodup)
      (hspells : Spells setting value spelling) (hafter : spelling.length = 1 ∨ Closes after) :
      Assigns setting value chosen after (before ++ (spelling ++ after))

variable {setting : Setting} {value : Argument} {choices chosen : List Choice}
  {spelling before rest after line : List Argument}

theorem choose_of_not_mem (h : setting ∉ choices.map Choice.setting) :
    choose choices setting value =
      (Choice.read setting value).map fun choice => choices ++ [choice] := by
  have hany : ¬choices.any (·.setting = setting) = true := by
    simpa [List.any_eq_true] using h
  rw [choose, if_neg hany]

theorem Spells.closes (h : Spells setting value spelling) (rest : List Argument) :
    Closes (spelling ++ rest) := by
  cases h with
  | within argument h => exact .inr (.inr ⟨setting, some value, argument, rest, h, rfl⟩)
  | apart argument h _ => exact .inr (.inr ⟨setting, none, argument, value :: rest, h, rfl⟩)

theorem Spells.readFrom_append (h : Spells setting value spelling)
    (hrest : spelling.length = 1 ∨ Closes rest) :
    readFrom ⟨choices, none⟩ (spelling ++ rest) =
      choose choices setting value >>= fun new => readFrom ⟨new, none⟩ rest := by
  cases h with
  | within argument h =>
    have hstart : (State.mk choices none).start setting (some value) =
        choose choices setting value >>= fun new => Except.ok ⟨new, none⟩ := rfl
    rw [List.singleton_append, readFrom_opens h, hstart, bind_assoc]
    rfl
  | apart argument h hvalue =>
    -- The value is held back until what follows closes the setting.
    have hcloses : Closes rest := hrest.resolve_left (by simp)
    calc readFrom ⟨choices, none⟩ (argument :: value :: rest)
      _ = readFrom ⟨choices, some (setting, none)⟩ (value :: rest) := readFrom_opens h
      _ = readFrom ⟨choices, some (setting, some value)⟩ rest := readFrom_detached hvalue
      _ = _ := readFrom_eq_close hcloses

/-- Choices that a line begins with are made before the rest of the line is read. -/
theorem Line.readFrom_append (h : Line chosen before) (hunclosed : [0x2D, 0x2D] ∉ before)
    (hnodup : ((choices ++ chosen).map Choice.setting).Nodup) (hrest : Closes rest) :
    readFrom ⟨choices, none⟩ (before ++ rest) = readFrom ⟨choices ++ chosen, none⟩ rest := by
  -- Each choice adds to those made, so the induction goes over all of these.
  induction h generalizing choices with
  | nil => rw [List.nil_append, List.append_nil]
  | closed => exact absurd (List.mem_singleton_self _) hunclosed
  | cons choice value spelling chosen before hgiven hspells hline ih =>
    have hunclosed' : [0x2D, 0x2D] ∉ before := fun h => hunclosed (List.mem_append_right _ h)
    have hcloses : Closes (before ++ rest) := by
      cases hline with
      | nil => exact hrest
      | closed => exact absurd (List.mem_singleton_self _) hunclosed'
      | cons _ _ _ _ _ _ hnext _ => exact List.append_assoc .. ▸ hnext.closes _
    have hfresh : choice.setting ∉ choices.map Choice.setting := fun h => by
      rw [List.map_append, List.nodup_append] at hnodup
      exact hnodup.2.2 _ h _ List.mem_cons_self rfl
    have hread := Choice.read_eq_ok_iff_givenBy.2 ⟨rfl, hgiven⟩
    rw [List.append_assoc, hspells.readFrom_append (.inr hcloses), choose_of_not_mem hfresh, hread]
    have hcons : choices ++ choice :: chosen = choices ++ [choice] ++ chosen := by simp
    rw [hcons] at hnodup ⊢
    exact ih hunclosed' hnodup

/-- A line that gives a setting a value is read as if the choice had been made, or refused as the
value is. -/
theorem Assigns.readFrom_eq (h : Assigns setting value chosen after line) :
    readFrom {} line = Choice.read setting value >>= fun choice =>
      readFrom ⟨chosen ++ [choice], none⟩ after := by
  obtain ⟨before, spelling, hbefore, hunclosed, hnodup, hspells, hafter⟩ := h
  obtain ⟨hfresh, hnodup⟩ := List.nodup_cons.1 hnodup
  have happend : readFrom {} (before ++ (spelling ++ after)) =
      readFrom ⟨chosen, none⟩ (spelling ++ after) :=
    hbefore.readFrom_append hunclosed hnodup (hspells.closes after)
  rw [happend, hspells.readFrom_append hafter, choose_of_not_mem hfresh]
  cases Choice.read setting value <;> rfl

theorem Assigns.holds {choice : Choice} {config : Config}
    (h : Assigns setting value chosen after line) (hread : Choice.read setting value = .ok choice)
    (hok : read line = .ok config) : choice.Holds config := by
  obtain ⟨result, hresult, rfl⟩ := map_eq_ok_iff.1 hok
  rw [h.readFrom_eq, hread] at hresult
  obtain ⟨before, spelling, -, -, hnodup, -, -⟩ := h
  obtain ⟨rfl, -⟩ := Choice.read_eq_ok_iff_givenBy.1 hread
  have hmade : ((chosen ++ [choice]).map Choice.setting).Nodup := by
    rw [List.map_append, List.map_singleton]
    exact (List.perm_append_singleton _ _).nodup_iff.2 hnodup
  -- The choices behind it only add to those that are made.
  obtain ⟨others, hothers⟩ := Line.exists_of_readFrom hresult
  obtain ⟨hall, rfl⟩ := (hothers.readFrom_eq_ok_iff hmade).1 hresult
  exact Choice.holds_config hall (by simp)

/-! ## Counts -/

namespace CountSetting

/-- The setting takes the text as the number.  A line that gives it the text goes on with that
choice, and the configuration has the number if the line is accepted. -/
def Takes (s : CountSetting) (text : String) (n : UInt64) : Prop :=
  Choice.read s.toSetting (Utf8.encode text) = .ok (s.choice n) ∧
    ∀ chosen after line, Assigns s.toSetting (Utf8.encode text) chosen after line →
      readFrom {} line = readFrom ⟨chosen ++ [s.choice n], none⟩ after ∧
      ∀ config, read line = .ok config → (s.choice n).Holds config

/-- The setting refuses the text and tells the reason, and a line that gives it the text is refused
for that alone. -/
def Refuses (s : CountSetting) (text why : String) : Prop :=
  ∃ fault, Choice.read s.toSetting (Utf8.encode text) = .error fault ∧
    (∀ chosen after line, Assigns s.toSetting (Utf8.encode text) chosen after line →
      read line = .error fault) ∧
    ∀ supply name, fault.text supply name = "error: invalid value '" ++
      Terminal.shown supply text ++ "' for '" ++ s.toSetting.label ++ "': " ++ why

theorem read_eq (s : CountSetting) (text : String) :
    Choice.read s.toSetting (Utf8.encode text) = match Decimal.read text with
      | .ok n => .ok (s.choice n)
      | .error why => .error (.noCount s.toSetting text why) := by
  have htext : Choice.readText (Utf8.encode text) = .ok text := Choice.readText_eq_ok_iff.2 rfl
  have hcount (setting : Setting) : Choice.readCount setting (Utf8.encode text) =
      (Decimal.read text).mapError (.noCount setting text) := by
    simp only [Choice.readCount, htext, bind, Except.bind]
    cases Decimal.read text <;> rfl
  cases s with
  | _ =>
    simp only [toSetting, choice, Choice.read, hcount]
    cases Decimal.read text <;> rfl

theorem choice_inj {s : CountSetting} {n m : UInt64} : s.choice n = s.choice m ↔ n = m := by
  cases s <;> simp [choice]

theorem takes_iff {s : CountSetting} {text : String} {n : UInt64} :
    s.Takes text n ↔ Decimal.read text = .ok n := by
  have hread := read_eq s text
  constructor
  · rintro ⟨htaken, -⟩
    rw [htaken] at hread
    cases h : Decimal.read text with
    | ok m =>
      rw [h] at hread
      rw [choice_inj.1 (Except.ok.inj hread)]
    | error why =>
      rw [h] at hread
      cases hread
  · intro h
    rw [h] at hread
    refine ⟨hread, fun chosen after line hline => ⟨?_, fun config => hline.holds hread⟩⟩
    rw [hline.readFrom_eq, hread]
    rfl

theorem refuses_iff {s : CountSetting} {text : String} {why : Decimal.Fault} :
    s.Refuses text why.message ↔ Decimal.read text = .error why := by
  have hread := read_eq s text
  constructor
  · rintro ⟨fault, hfault, -, htext⟩
    rw [hfault] at hread
    cases h : Decimal.read text with
    | ok n =>
      rw [h] at hread
      cases hread
    | error why' =>
      rw [h] at hread
      cases hread
      -- All in front of the reason is the same, so the reasons are.
      have hmessage := (String.append_right_inj _).1 (htext .whole "")
      rw [Decimal.Fault.message_eq_iff.1 hmessage]
  · intro h
    rw [h] at hread
    refine ⟨_, hread, fun chosen after line hline => ?_, fun supply name => rfl⟩
    rw [read, hline.readFrom_eq, hread]
    rfl

/-- A setting takes a text as a number exactly if the text gives the number in digits, and the
number fits in 64 bits.  Any other text is refused: the empty one as such, and the others for what
comes first from the left, digits that do not fit or a character that is no digit.  Words of 64 bits
read every text the same, so nothing is lost on the way to a number. -/
theorem takes_or_refuses (s : CountSetting) (text : String) :
    (∀ n : UInt64, s.Takes text n ↔ Decimal.Gives text n.toNat) ∧
    (s.Refuses text "cannot parse integer from empty string" ↔ text = "") ∧
    (s.Refuses text "number too large to fit in target type" ↔ Decimal.Exceeds text) ∧
    (s.Refuses text "invalid digit found in string" ↔ Decimal.Malformed text) ∧
    ((∃ n : UInt64, Decimal.Gives text n.toNat) ∨ text = "" ∨ Decimal.Exceeds text ∨
      Decimal.Malformed text) ∧
    Decimal.readWords text = Decimal.read text := by
  refine ⟨fun n => ?_, ?_, ?_, ?_, Decimal.gives_or_refused text, Decimal.readWords_eq_read text⟩
  · rw [takes_iff, Decimal.read_eq_ok_iff_gives]
  · exact (@refuses_iff s text .empty).trans Decimal.read_eq_empty_iff
  · exact (@refuses_iff s text .tooLarge).trans Decimal.read_eq_tooLarge_iff
  · exact (@refuses_iff s text .invalidDigit).trans Decimal.read_eq_invalidDigit_iff

-- The number is too large before the letter is seen, and nothing behind it is looked at.
example : read (["--url", "-", "--fee-multiplier=+0018446744073709551616x", "-z"].map Utf8.encode) =
    .error (.noCount .multiplier "+0018446744073709551616x" .tooLarge) := by decide +kernel

end CountSetting

end ClusterProbe.CommandLine
