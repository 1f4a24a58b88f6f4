import ClusterProbe.CommandLine.Choice
import ClusterProbe.Proofs.Decimal
import ClusterProbe.Proofs.Utf8
import Mathlib.Data.List.Induction

/-!
# Values of settings

What an argument has to be to give a setting its value, and what a configuration then holds.  The
defaults are told twice, as values of a command line and as those of a configuration; both are the
same.
-/

namespace ClusterProbe

namespace Commitment

theorem ofName?_eq_some_iff {name : String} {l : Commitment} :
    ofName? name = some l ↔ name = l.name := by
  constructor
  · intro h
    unfold ofName? at h
    have hname := List.find?_some h
    exact (of_decide_eq_true hname).symm
  · intro h
    rw [h, ofName?_name]

theorem encode_name_ne_nil (l : Commitment) : Utf8.encode l.name ≠ [] := by
  cases l <;> decide +kernel

end Commitment

namespace CommandLine

/-! ## Values -/

/-- The count is given by the value, as text. -/
def CountGivenBy (n : UInt64) (value : Argument) : Prop :=
  ∃ text, value = Utf8.encode text ∧ Decimal.Gives text n.toNat

/-- The value, as it stands in an argument, gives what is chosen. -/
def Choice.GivenBy : Choice → Argument → Prop
  | .endpoint url, value => value = Utf8.encode url
  | .address text, value => value = Utf8.encode text
  | .multiplier n, value => CountGivenBy n value
  | .level l, value => value = Utf8.encode l.name
  | .timeout seconds, value => CountGivenBy seconds value
  | .interval millis, value => CountGivenBy millis value
  -- A path is any octets but none at all.
  | .keypair path, value => value = path ∧ path ≠ []

/-- The configuration has the value that is chosen. -/
def Choice.Holds (config : Config) : Choice → Prop
  | .endpoint url => config.endpoint = url
  | .address text => config.address = text
  | .multiplier n => config.multiplier = n
  | .level l => config.confirmation.level = l
  | .timeout seconds => config.confirmation.timeout = ⟨seconds.toNat, 0⟩
  | .interval millis =>
    config.confirmation.interval = ⟨millis.toNat / 1000, millis.toNat % 1000 * 1000000⟩
  | .keypair path => config.keypair = some path

/-- The two configurations have the same value of the setting. -/
def Setting.Agrees (c d : Config) : Setting → Prop
  | .endpoint => c.endpoint = d.endpoint
  | .address => c.address = d.address
  | .multiplier => c.multiplier = d.multiplier
  | .level => c.confirmation.level = d.confirmation.level
  | .timeout => c.confirmation.timeout = d.confirmation.timeout
  | .interval => c.confirmation.interval = d.confirmation.interval
  | .keypair => c.keypair = d.keypair

theorem Setting.Agrees.refl (setting : Setting) (c : Config) : setting.Agrees c c := by
  cases setting with
  | _ => exact rfl

theorem Setting.Agrees.trans {setting : Setting} {c d e : Config} (hcd : setting.Agrees c d)
    (hde : setting.Agrees d e) : setting.Agrees c e := by
  cases setting with
  | _ => exact Eq.trans hcd hde

theorem map_eq_ok_iff {ε α β : Type} {x : Except ε α} {f : α → β} {b : β} :
    x.map f = .ok b ↔ ∃ a, x = .ok a ∧ f a = b := by
  cases x <;> simp [Except.map]

theorem bind_eq_ok_iff {ε α β : Type} {x : Except ε α} {f : α → Except ε β} {b : β} :
    x >>= f = .ok b ↔ ∃ a, x = .ok a ∧ f a = .ok b := by
  cases x <;> simp [bind, Except.bind]

namespace Choice

theorem readText_eq_ok_iff {value : Argument} {text : String} :
    readText value = .ok text ↔ value = Utf8.encode text := by
  rw [← Utf8.decode?_eq_some_iff, readText]
  cases Utf8.decode? value <;> simp

theorem readCount_eq_ok_iff {setting : Setting} {value : Argument} {n : UInt64} :
    readCount setting value = .ok n ↔ CountGivenBy n value := by
  simp only [CountGivenBy, ← readText_eq_ok_iff, ← Decimal.read_eq_ok_iff_gives, readCount,
    bind_eq_ok_iff]
  refine exists_congr fun text => and_congr_right fun _ => ?_
  cases Decimal.read text <;> simp

theorem readLevel_eq_ok_iff {value : Argument} {l : Commitment} :
    readLevel value = .ok l ↔ value = Utf8.encode l.name := by
  have hbind : (Utf8.decode? value).bind Commitment.ofName? = some l ↔
      value = Utf8.encode l.name := by
    simp only [Option.bind_eq_some_iff, Utf8.decode?_eq_some_iff, Commitment.ofName?_eq_some_iff]
    exact ⟨fun ⟨_, hvalue, hname⟩ => hname ▸ hvalue, fun hvalue => ⟨_, hvalue, rfl⟩⟩
  rw [← hbind, readLevel]
  split
  · next hnil =>
    have hne : (Utf8.decode? value).bind Commitment.ofName? ≠ some l := fun h =>
      Commitment.encode_name_ne_nil l (hnil ▸ (hbind.1 h).symm)
    exact ⟨fun h => (nomatch h), fun h => absurd h hne⟩
  · cases (Utf8.decode? value).bind Commitment.ofName? <;> simp

theorem readPath_eq_ok_iff {value : Argument} {path : Path} :
    readPath value = .ok path ↔ value = path ∧ path ≠ [] := by
  rw [readPath]
  split
  · next hnil =>
    subst hnil
    exact ⟨fun h => (nomatch h), fun h => absurd h.1.symm h.2⟩
  · next hne =>
    rw [Except.ok.injEq]
    exact ⟨fun h => ⟨h, h ▸ hne⟩, And.left⟩

/-- A value is read as the choice that it gives, and no other value is read. -/
theorem read_eq_ok_iff_givenBy {setting : Setting} {value : Argument} {choice : Choice} :
    read setting value = .ok choice ↔ choice.setting = setting ∧ choice.GivenBy value := by
  cases setting <;> cases choice <;>
    simp [read, map_eq_ok_iff, readText_eq_ok_iff, readCount_eq_ok_iff, readLevel_eq_ok_iff,
      readPath_eq_ok_iff, Choice.setting, GivenBy]

/-! ## Defaults -/

theorem countGivenBy_text (n : UInt64) : CountGivenBy n (Utf8.encode (Decimal.text n.toNat)) :=
  ⟨_, rfl, Decimal.read_eq_ok_iff_gives.1 (Decimal.read_text n)⟩

/-- A default is a value of its setting, and it is what a configuration has from the start. -/
theorem exists_default {setting : Setting} {text : String} (h : setting.defaultText = some text) :
    ∃ choice, read setting (Utf8.encode text) = .ok choice ∧ apply {} choice = {} := by
  simp only [read_eq_ok_iff_givenBy]
  cases setting with
  | endpoint =>
    cases h
    exact ⟨.endpoint ({} : Config).endpoint, ⟨rfl, rfl⟩, rfl⟩
  | address =>
    cases h
    exact ⟨.address ({} : Config).address, ⟨rfl, rfl⟩, rfl⟩
  | multiplier =>
    cases h
    exact ⟨.multiplier ({} : Config).multiplier, ⟨rfl, countGivenBy_text _⟩, rfl⟩
  | level =>
    cases h
    exact ⟨.level .confirmed, ⟨rfl, rfl⟩, rfl⟩
  | timeout =>
    cases h
    exact ⟨.timeout 30, ⟨rfl, countGivenBy_text 30⟩, rfl⟩
  | interval =>
    cases h
    exact ⟨.interval 250, ⟨rfl, countGivenBy_text 250⟩, rfl⟩
  | keypair => cases h

theorem apply_of_mem_defaults {choice : Choice} (h : choice ∈ defaults) : apply {} choice = {} := by
  obtain ⟨setting, -, hdefault⟩ := List.mem_filterMap.1 h
  obtain ⟨text, htext, hread⟩ := Option.bind_eq_some_iff.1 hdefault
  obtain ⟨_, hchoice, happly⟩ := exists_default htext
  rw [hchoice] at hread
  cases hread
  exact happly

/-- The two sets of defaults are the same. -/
theorem config_eq_foldl (choices : List Choice) : config choices = choices.foldl apply {} := by
  have hdefaults : defaults.foldl apply {} = {} :=
    List.foldlRecOn (motive := fun config => config = {}) defaults apply rfl
      fun _ hconfig _ h => hconfig ▸ apply_of_mem_defaults h
  rw [config, List.foldl_append, hdefaults]

/-! ## Configurations -/

theorem holds_apply (config : Config) (choice : Choice) : choice.Holds (apply config choice) := by
  cases choice with
  | _ => rfl

/-- A choice changes nothing else. -/
theorem agrees_apply {setting : Setting} {choice : Choice} (config : Config)
    (h : choice.setting ≠ setting) : setting.Agrees (apply config choice) config := by
  cases setting <;> cases choice <;> first | rfl | exact absurd rfl h

theorem holds_of_agrees {choice : Choice} {c d : Config} (h : choice.setting.Agrees c d)
    (hd : choice.Holds d) : choice.Holds c := by
  cases choice with
  | _ => exact Eq.trans h hd

/-- A configuration has all that is chosen, if no two choices are of one setting. -/
theorem holds_config {choices : List Choice} (hnodup : (choices.map Choice.setting).Nodup)
    {choice : Choice} (h : choice ∈ choices) : choice.Holds (config choices) := by
  rw [config_eq_foldl]
  induction choices using List.reverseRecOn with
  | nil => cases h
  | append_singleton choices last ih =>
    rw [List.map_append, List.nodup_append] at hnodup
    rw [List.foldl_append]
    rcases List.mem_append.1 h with h | h
    · have hne : last.setting ≠ choice.setting := fun heq =>
        hnodup.2.2 _ (List.mem_map_of_mem h) _ (List.mem_singleton_self _) heq.symm
      exact holds_of_agrees (agrees_apply _ hne) (ih hnodup.1 h)
    · rw [List.mem_singleton.1 h]
      exact holds_apply _ _

end Choice

end CommandLine

end ClusterProbe
