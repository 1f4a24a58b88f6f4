import ClusterProbe.CommandLine.Reader
import ClusterProbe.Proofs.CommandLine.Values
import Mathlib.Data.List.TakeWhile

/-!
# The grammar of a command line

A command line is accepted exactly if its arguments, from left to right, spell settings with their
values, no setting twice.  The reader holds a value back until its setting is closed, which only
changes the fault that is told: a line is read as if every value was looked at on the spot.
-/

namespace ClusterProbe.CommandLine

/-! ## The grammar -/

/-- The texts that name a setting. -/
def Setting.names (setting : Setting) : List String :=
  ("--" ++ setting.long) :: setting.short.toList.map fun c => "-" ++ String.singleton c

/-- The argument opens the setting, with its value if that is in the same argument. -/
inductive Opens (setting : Setting) : Option Argument → Argument → Prop
  | named (name : String) (h : name ∈ setting.names) : Opens setting none (Utf8.encode name)
  | assigned (name : String) (value : Argument) (h : name ∈ setting.names) :
      Opens setting (some value) (Utf8.encode (name ++ "=") ++ value)
  | joined (c : Char) (value : Argument) (h : setting.short = some c) (hne : value ≠ [])
      (hsign : value.head? ≠ some 0x3D) :
      Opens setting (some value) (Utf8.encode ("-" ++ String.singleton c) ++ value)

/-- The argument can stand apart as a value, as it does not look like an option. -/
def Detached (value : Argument) : Prop := value = [0x2D] ∨ value.head? ≠ some 0x2D

/-- The arguments spell the setting with its value. -/
inductive Spells (setting : Setting) (value : Argument) : List Argument → Prop
  | within (argument : Argument) (h : Opens setting (some value) argument) :
      Spells setting value [argument]
  | apart (argument : Argument) (h : Opens setting none argument) (hvalue : Detached value) :
      Spells setting value [argument, value]

theorem Spells.length_pos {setting : Setting} {value : Argument} {spelling : List Argument}
    (h : Spells setting value spelling) : 0 < spelling.length := by
  cases h <;> exact Nat.succ_pos _

/-- The arguments spell the choices one after the other; two dashes alone may end them. -/
inductive Line : List Choice → List Argument → Prop
  | nil : Line [] []
  | closed : Line [] [[0x2D, 0x2D]]
  | cons (choice : Choice) (value : Argument) (spelling : List Argument) (choices : List Choice)
      (rest : List Argument) (hgiven : choice.GivenBy value)
      (hspells : Spells choice.setting value spelling) (hrest : Line choices rest) :
      Line (choice :: choices) (spelling ++ rest)

/-! ## Names -/

theorem encode_dash : Utf8.encode "-" = [0x2D] := by decide +kernel

theorem encode_dashes : Utf8.encode "--" = [0x2D, 0x2D] := by decide +kernel

theorem encode_sign : Utf8.encode "=" = [0x3D] := by decide +kernel

theorem encode_singleton (c : Char) :
    Utf8.encode (String.singleton c) = String.utf8EncodeChar c := by
  rw [← String.ofList_toList (s := String.singleton c), Utf8.encode_ofList, String.toList_singleton,
    List.flatMap_singleton]

namespace Setting

theorem mem_names_iff {setting : Setting} {name : String} : name ∈ setting.names ↔
    name = "--" ++ setting.long ∨
      ∃ c, setting.short = some c ∧ name = "-" ++ String.singleton c := by
  simp only [names, List.mem_cons, List.mem_map, Option.mem_toList]
  exact or_congr_right (exists_congr fun c => and_congr_right fun _ => eq_comm)

theorem ofLong?_eq_some_iff {name : String} {setting : Setting} :
    ofLong? name = some setting ↔ name = setting.long := by
  constructor
  · intro h
    unfold ofLong? at h
    have hname := List.find?_some h
    exact (of_decide_eq_true hname).symm
  · rintro rfl
    cases setting <;> decide

theorem ofShort?_eq_some_iff {c : Char} {setting : Setting} :
    ofShort? c = some setting ↔ setting.short = some c := by
  constructor
  · intro h
    unfold ofShort? at h
    have hname := List.find?_some h
    exact of_decide_eq_true hname
  · intro h
    cases setting <;> cases h <;> decide

theorem encode_long_ne_nil (setting : Setting) : Utf8.encode setting.long ≠ [] := by
  cases setting <;> decide +kernel

theorem ne_sign_of_mem_encode_long {setting : Setting} {b : UInt8}
    (h : b ∈ Utf8.encode setting.long) : b ≠ 0x3D := by
  revert b
  cases setting <;> decide +kernel

/-- A letter that names a setting is one octet, and no dash. -/
theorem exists_octet_of_short {setting : Setting} {c : Char} (h : setting.short = some c) :
    ∃ b, String.utf8EncodeChar c = [b] ∧ b ≠ 0x2D := by
  cases setting <;> cases h <;> exact ⟨_, rfl, by decide⟩

end Setting

/-! ## Arguments

What the reader does at an argument that opens a setting, at one that stands apart, and that it
knows no others. -/

variable {setting : Setting} {state : State} {rest : List Argument}

theorem State.long_named : state.long (Utf8.encode setting.long) = state.start setting none := by
  have hname : ∀ b ∈ Utf8.encode setting.long, decide (b ≠ 0x3D) = true := fun b hb =>
    decide_eq_true (Setting.ne_sign_of_mem_encode_long hb)
  have htake : (Utf8.encode setting.long).takeWhile (· ≠ 0x3D) = Utf8.encode setting.long :=
    List.takeWhile_eq_self_iff.2 hname
  have hdrop : (Utf8.encode setting.long).dropWhile (· ≠ 0x3D) = [] :=
    List.dropWhile_eq_nil_iff.2 hname
  simp only [long, htake, hdrop, Utf8.decode?_encode, Setting.ofLong?_eq_some_iff.2 rfl]

theorem State.long_assigned (value : Argument) :
    state.long (Utf8.encode setting.long ++ 0x3D :: value) = state.start setting (some value) := by
  have hname : ∀ b ∈ Utf8.encode setting.long, decide (b ≠ 0x3D) = true := fun b hb =>
    decide_eq_true (Setting.ne_sign_of_mem_encode_long hb)
  have htake : (Utf8.encode setting.long ++ 0x3D :: value).takeWhile (· ≠ 0x3D) =
      Utf8.encode setting.long := by
    rw [List.takeWhile_append_of_pos hname]
    exact List.append_nil _
  have hdrop : (Utf8.encode setting.long ++ 0x3D :: value).dropWhile (· ≠ 0x3D) =
      0x3D :: value := List.dropWhile_append_of_pos hname
  simp only [long, htake, hdrop, Utf8.decode?_encode, Setting.ofLong?_eq_some_iff.2 rfl]

theorem State.short_eq_start {c : Char} {b : UInt8} (hshort : setting.short = some c)
    (hc : String.utf8EncodeChar c = [b]) (letters : Argument) :
    state.short (b :: letters) = state.start setting
      (match letters with
        | [] => none
        | x :: after => some (if x = 0x3D then after else letters)) := by
  have hstep : Utf8.step b letters = (some c, letters) := Utf8.step_eq_some_iff.2 (by rw [hc]; rfl)
  simp only [short, hstep, Setting.ofShort?_eq_some_iff.2 hshort]
  rfl

theorem readFrom_long {body : Argument} (hne : body ≠ []) :
    readFrom state ((0x2D :: 0x2D :: body) :: rest) =
      state.long body >>= fun state => readFrom state rest := by
  cases body with
  | nil => exact absurd rfl hne
  | cons b body => rfl

theorem readFrom_short {b : UInt8} (hb : b ≠ 0x2D) (letters : Argument) :
    readFrom state ((0x2D :: b :: letters) :: rest) =
      state.short (b :: letters) >>= fun state => readFrom state rest := by
  rw [readFrom]
  · exact fun h _ => hb h
  · exact hb

theorem Detached.ne_dashed {argument : Argument} (h : Detached argument) (b : UInt8)
    (letters : Argument) : argument ≠ 0x2D :: b :: letters := by
  rintro rfl
  cases h with
  | inl h => cases h
  | inr h => exact h rfl

theorem readFrom_detached {argument : Argument} (h : Detached argument) :
    readFrom state (argument :: rest) =
      state.plain argument >>= fun state => readFrom state rest := by
  rw [readFrom]
  · exact h.ne_dashed _ _
  · exact fun _ => h.ne_dashed _ _
  · exact h.ne_dashed

/-- An argument that opens a setting starts it. -/
theorem readFrom_opens {value : Option Argument} {argument : Argument}
    (h : Opens setting value argument) :
    readFrom state (argument :: rest) =
      state.start setting value >>= fun state => readFrom state rest := by
  -- A long name goes as far as the first sign, and a short one is a single octet.
  cases h with
  | named name h =>
    rcases Setting.mem_names_iff.1 h with rfl | ⟨c, hshort, rfl⟩
    · rw [Utf8.encode_append, encode_dashes, List.cons_append, List.cons_append, List.nil_append,
        readFrom_long setting.encode_long_ne_nil, State.long_named]
    · obtain ⟨b, hc, hb⟩ := Setting.exists_octet_of_short hshort
      rw [Utf8.encode_append, encode_dash, encode_singleton, hc, List.singleton_append,
        readFrom_short hb, State.short_eq_start hshort hc]
  | assigned name value h =>
    rcases Setting.mem_names_iff.1 h with rfl | ⟨c, hshort, rfl⟩
    · have hne : Utf8.encode setting.long ++ 0x3D :: value ≠ [] :=
        List.append_ne_nil_of_right_ne_nil _ (List.cons_ne_nil _ _)
      rw [Utf8.encode_append, Utf8.encode_append, encode_dashes, encode_sign, List.append_assoc,
        List.append_assoc, List.cons_append, List.cons_append, List.nil_append,
        List.singleton_append, readFrom_long hne, State.long_assigned]
    · obtain ⟨b, hc, hb⟩ := Setting.exists_octet_of_short hshort
      rw [Utf8.encode_append, Utf8.encode_append, encode_dash, encode_singleton, hc, encode_sign]
      simp only [List.cons_append, List.nil_append]
      rw [readFrom_short hb, State.short_eq_start hshort hc]
      rfl
  | joined c value hshort hne hsign =>
    obtain ⟨b, hc, hb⟩ := Setting.exists_octet_of_short hshort
    obtain ⟨x, after, rfl⟩ := List.exists_cons_of_ne_nil hne
    have hx : x ≠ 0x3D := fun hx => hsign (hx ▸ rfl)
    rw [Utf8.encode_append, encode_dash, encode_singleton, hc]
    simp only [List.cons_append, List.nil_append]
    rw [readFrom_short hb, State.short_eq_start hshort hc]
    simp only [if_neg hx]

theorem State.grant_ne_ok (request : Request) (new : State) : state.grant request ≠ .ok new := by
  rw [grant]
  cases state.close <;> exact fun h => nomatch h

theorem long_mem_names (setting : Setting) : "--" ++ setting.long ∈ setting.names :=
  Setting.mem_names_iff.2 (.inl rfl)

theorem short_mem_names {c : Char} (h : setting.short = some c) :
    "-" ++ String.singleton c ∈ setting.names :=
  Setting.mem_names_iff.2 (.inr ⟨c, h, rfl⟩)

theorem State.exists_opens_of_long {body : Argument} {new : State} (h : state.long body = .ok new) :
    ∃ setting value, Opens setting value (0x2D :: 0x2D :: body) := by
  -- The name and what begins with the sign make up the body.
  have hbody : body.takeWhile (· ≠ 0x3D) ++ body.dropWhile (· ≠ 0x3D) = body :=
    List.takeWhile_append_dropWhile
  simp only [long] at h
  split at h
  · cases h
  · next text htext =>
    rw [Utf8.decode?_eq_some_iff.1 htext] at hbody
    split at h
    · next _ setting hsetting =>
      rw [Setting.ofLong?_eq_some_iff.1 hsetting] at hbody
      cases hdrop : body.dropWhile (· ≠ 0x3D) with
      | nil =>
        have hopens := Opens.named _ (long_mem_names setting)
        rw [hdrop, List.append_nil] at hbody
        rw [Utf8.encode_append, encode_dashes, hbody] at hopens
        exact ⟨setting, none, hopens⟩
      | cons b value =>
        have hb := List.head?_dropWhile_not (fun b : UInt8 => decide (b ≠ 0x3D)) body
        rw [hdrop] at hb
        have hb : b = 0x3D := of_not_not (of_decide_eq_false hb)
        have hopens := Opens.assigned _ value (long_mem_names setting)
        rw [hdrop, hb] at hbody
        rw [Utf8.encode_append, Utf8.encode_append, encode_dashes, encode_sign, List.append_assoc,
          List.append_assoc, List.singleton_append, hbody] at hopens
        exact ⟨setting, some value, hopens⟩
    · split at h
      · exact absurd h (grant_ne_ok _ _)
      · cases h
    · cases h

theorem State.exists_opens_of_short {b : UInt8} {letters : Argument} {new : State}
    (h : state.short (b :: letters) = .ok new) :
    ∃ setting value, Opens setting value (0x2D :: b :: letters) := by
  simp only [short] at h
  split at h
  · cases h
  · next c rest hstep =>
    have hletters := Utf8.step_eq_some_iff.1 hstep
    split at h
    · next _ setting hsetting =>
      have hshort := Setting.ofShort?_eq_some_iff.1 hsetting
      rw [hletters, ← encode_singleton]
      cases rest with
      | nil =>
        have hopens := Opens.named _ (short_mem_names hshort)
        rw [Utf8.encode_append, encode_dash] at hopens
        rw [List.append_nil]
        exact ⟨setting, none, hopens⟩
      | cons x after =>
        by_cases hx : x = 0x3D
        · have hopens := Opens.assigned _ after (short_mem_names hshort)
          rw [Utf8.encode_append, Utf8.encode_append, encode_dash, encode_sign, List.append_assoc,
            List.append_assoc, List.singleton_append] at hopens
          exact ⟨setting, some after, hx ▸ hopens⟩
        · have hopens := Opens.joined c (x :: after) hshort (List.cons_ne_nil _ _)
            fun h => hx (Option.some.inj h)
          rw [Utf8.encode_append, encode_dash, List.append_assoc] at hopens
          exact ⟨setting, some (x :: after), hopens⟩
    · exact absurd h (grant_ne_ok _ _)
    · cases h

theorem exists_dashed_of_not_detached {argument : Argument} (h : ¬Detached argument) :
    ∃ b letters, argument = 0x2D :: b :: letters := by
  rw [Detached, not_or, not_ne_iff] at h
  obtain ⟨hne, hhead⟩ := h
  obtain ⟨tail, rfl⟩ := List.head?_eq_some_iff.1 hhead
  cases tail with
  | nil => exact absurd rfl hne
  | cons b letters => exact ⟨b, letters, rfl⟩

/-- What an argument can be, given those after it. -/
inductive Kind (rest : List Argument) (argument : Argument) : Prop
  | closing (h : argument = [0x2D, 0x2D]) (hrest : rest = [])
  | opening (setting : Setting) (value : Option Argument) (h : Opens setting value argument)
  | detached (h : Detached argument)
  | refused (h : ∀ state choices, readFrom state (argument :: rest) ≠ .ok choices)

theorem kind (rest : List Argument) (argument : Argument) : Kind rest argument := by
  -- Where some state goes on, the name in the argument was found; which setting it was does not
  -- depend on the state.
  by_cases hok : ∃ state choices, readFrom state (argument :: rest) = .ok choices
  · obtain ⟨state, choices, h⟩ := hok
    by_cases hdetached : Detached argument
    · exact .detached hdetached
    obtain ⟨b, letters, rfl⟩ := exists_dashed_of_not_detached hdetached
    by_cases hb : b = 0x2D
    · subst hb
      cases letters with
      | nil =>
        cases rest with
        | nil => exact .closing rfl rfl
        | cons argument rest => exact nomatch h
      | cons b body =>
        rw [readFrom_long (List.cons_ne_nil b body)] at h
        obtain ⟨new, hnew, -⟩ := bind_eq_ok_iff.1 h
        obtain ⟨setting, value, hopens⟩ := State.exists_opens_of_long hnew
        exact .opening setting value hopens
    · rw [readFrom_short hb] at h
      obtain ⟨new, hnew, -⟩ := bind_eq_ok_iff.1 h
      obtain ⟨setting, value, hopens⟩ := State.exists_opens_of_short hnew
      exact .opening setting value hopens
  · exact .refused fun state choices h => hok ⟨state, choices, h⟩

/-! ## Pending settings

A line is read as if a setting was closed as soon as its value is known. -/

variable {choices result : List Choice} {arguments : List Argument}

theorem choose_eq_ok_iff {value : Argument} {new : List Choice} :
    choose choices setting value = .ok new ↔ setting ∉ choices.map Choice.setting ∧
      ∃ choice, Choice.read setting value = .ok choice ∧ choices ++ [choice] = new := by
  have hany : choices.any (·.setting = setting) = true ↔ setting ∈ choices.map Choice.setting := by
    simp [List.any_eq_true]
  rw [choose]
  split
  · next hchosen => exact ⟨fun h => (nomatch h), fun h => absurd (hany.1 hchosen) h.1⟩
  · next hnew =>
    have hnew : setting ∉ choices.map Choice.setting := fun h => hnew (hany.2 h)
    rw [map_eq_ok_iff]
    exact ⟨fun h => ⟨hnew, h⟩, And.right⟩

/-- Unless a value may follow, the pending setting is closed before anything else. -/
theorem readFrom_eq_close (h : arguments = [] ∨ arguments = [[0x2D, 0x2D]] ∨
    ∃ next value argument rest, Opens next value argument ∧ arguments = argument :: rest) :
    readFrom state arguments =
      state.close >>= fun choices => readFrom ⟨choices, none⟩ arguments := by
  rcases h with rfl | rfl | ⟨next, value, argument, rest, hopens, rfl⟩
  · show state.close = state.close >>= Except.ok
    cases state.close <;> rfl
  · show state.close = state.close >>= Except.ok
    cases state.close <;> rfl
  · simp only [readFrom_opens hopens, State.start]
    cases state.close <;> rfl

theorem readFrom_filled {value : Argument} :
    readFrom ⟨choices, some (setting, some value)⟩ arguments = .ok result ↔
      ∃ new, choose choices setting value = .ok new ∧
        readFrom ⟨new, none⟩ arguments = .ok result := by
  -- Whatever can follow closes the setting first, and the rest is refused with it and without.
  cases arguments with
  | nil => rw [readFrom_eq_close (.inl rfl), State.close, bind_eq_ok_iff]
  | cons argument rest =>
    cases kind rest argument with
    | closing h hrest =>
      rw [h, hrest, readFrom_eq_close (.inr (.inl rfl)), State.close, bind_eq_ok_iff]
    | opening next own h =>
      rw [readFrom_eq_close (.inr (.inr ⟨next, own, argument, rest, h, rfl⟩)), State.close,
        bind_eq_ok_iff]
    | detached h =>
      simp only [readFrom_detached h]
      exact ⟨fun h => (nomatch h), fun ⟨_, _, h⟩ => (nomatch h)⟩
    | refused h =>
      exact ⟨fun hok => absurd hok (h _ _), fun ⟨_, _, hok⟩ => absurd hok (h _ _)⟩

/-- A setting without a value takes the next argument, which has to stand apart. -/
theorem readFrom_awaiting :
    readFrom ⟨choices, some (setting, none)⟩ arguments = .ok result ↔
      ∃ value rest, arguments = value :: rest ∧ Detached value ∧
        readFrom ⟨choices, some (setting, some value)⟩ rest = .ok result := by
  cases arguments with
  | nil => exact ⟨fun h => (nomatch h), fun ⟨_, _, h, _⟩ => (nomatch h)⟩
  | cons argument rest =>
    by_cases hdetached : Detached argument
    · rw [readFrom_detached hdetached]
      exact ⟨fun h => ⟨argument, rest, rfl, hdetached, h⟩, fun ⟨_, _, rfl, _, h⟩ => h⟩
    · refine ⟨fun h => ?_, fun ⟨_, _, rfl, h, _⟩ => absurd h hdetached⟩
      cases kind rest argument with
      | closing harg hrest =>
        rw [harg, hrest, readFrom_eq_close (.inr (.inl rfl))] at h
        cases h
      | opening next own hopens =>
        rw [readFrom_eq_close (.inr (.inr ⟨next, own, argument, rest, hopens, rfl⟩))] at h
        cases h
      | detached harg => exact absurd harg hdetached
      | refused harg => exact absurd h (harg _ _)

/-! ## Lines -/

/-- A spelled setting is chosen on the spot. -/
theorem readFrom_spelling {value : Argument} {spelling : List Argument}
    (h : Spells setting value spelling) :
    readFrom ⟨choices, none⟩ (spelling ++ rest) = .ok result ↔
      ∃ new, choose choices setting value = .ok new ∧ readFrom ⟨new, none⟩ rest = .ok result := by
  cases h with
  | within argument h =>
    have hstart : (State.mk choices none).start setting (some value) =
        choose choices setting value >>= fun new => Except.ok ⟨new, none⟩ := rfl
    rw [List.singleton_append, readFrom_opens h, hstart, bind_assoc, bind_eq_ok_iff]
    rfl
  | apart argument h hvalue =>
    have hstart : readFrom ⟨choices, none⟩ (argument :: value :: rest) =
        readFrom ⟨choices, some (setting, none)⟩ (value :: rest) := readFrom_opens h
    show readFrom ⟨choices, none⟩ (argument :: value :: rest) = .ok result ↔ _
    rw [hstart, readFrom_awaiting, ← readFrom_filled]
    exact ⟨fun ⟨_, _, h, _, hok⟩ => by cases h; exact hok, fun h => ⟨value, rest, rfl, hvalue, h⟩⟩

theorem exists_spelling_of_readFrom {argument : Argument}
    (h : readFrom ⟨choices, none⟩ (argument :: rest) = .ok result) :
    argument = [0x2D, 0x2D] ∧ rest = [] ∨ ∃ setting value spelling others,
      Spells setting value spelling ∧ argument :: rest = spelling ++ others := by
  cases kind rest argument with
  | closing harg hrest => exact .inl ⟨harg, hrest⟩
  | opening setting value hopens =>
    refine .inr ?_
    cases value with
    | some value => exact ⟨setting, value, [argument], rest, .within argument hopens, rfl⟩
    | none =>
      have hstart : readFrom ⟨choices, none⟩ (argument :: rest) =
          readFrom ⟨choices, some (setting, none)⟩ rest := readFrom_opens hopens
      rw [hstart] at h
      obtain ⟨value, others, rfl, hvalue, -⟩ := readFrom_awaiting.1 h
      exact ⟨setting, value, [argument, value], others, .apart argument hopens hvalue, rfl⟩
  | detached harg =>
    rw [readFrom_detached harg] at h
    cases h
  | refused harg => exact absurd h (harg _ _)

theorem Line.exists_of_readFrom (h : readFrom ⟨choices, none⟩ arguments = .ok result) :
    ∃ chosen, Line chosen arguments := by
  -- A spelling takes one argument or two, so the induction is on how many are left.
  induction hlength : arguments.length using Nat.strongRecOn generalizing arguments choices with
  | ind n ih =>
    cases arguments with
    | nil => exact ⟨[], .nil⟩
    | cons argument rest =>
      rcases exists_spelling_of_readFrom h with
        hend | ⟨setting, value, spelling, others, hspells, hsplit⟩
      · rw [hend.1, hend.2]
        exact ⟨[], .closed⟩
      · rw [hsplit] at h
        obtain ⟨new, hnew, hothers⟩ := (readFrom_spelling hspells).1 h
        obtain ⟨-, choice, hread, -⟩ := choose_eq_ok_iff.1 hnew
        obtain ⟨rfl, hgiven⟩ := Choice.read_eq_ok_iff_givenBy.1 hread
        have hshorter : others.length < n := by
          rw [← hlength, hsplit, List.length_append]
          exact Nat.lt_add_of_pos_left hspells.length_pos
        obtain ⟨chosen, hchosen⟩ := ih _ hshorter hothers rfl
        rw [hsplit]
        exact ⟨choice :: chosen, .cons choice value spelling chosen others hgiven hspells hchosen⟩

/-- The choices that a line spells are read, unless two of them are of one setting. -/
theorem Line.readFrom_eq_ok_iff {chosen : List Choice} (h : Line chosen arguments)
    (hnodup : (choices.map Choice.setting).Nodup) :
    readFrom ⟨choices, none⟩ arguments = .ok result ↔
      ((choices ++ chosen).map Choice.setting).Nodup ∧ choices ++ chosen = result := by
  -- What has been chosen before is of different settings, and each new choice keeps it so.
  induction h generalizing choices with
  | nil =>
    rw [List.append_nil]
    exact ⟨fun h => ⟨hnodup, Except.ok.inj h⟩, fun h => h.2 ▸ rfl⟩
  | closed =>
    rw [List.append_nil]
    exact ⟨fun h => ⟨hnodup, Except.ok.inj h⟩, fun h => h.2 ▸ rfl⟩
  | cons choice value spelling chosen rest hgiven hspells hrest ih =>
    have hread := Choice.read_eq_ok_iff_givenBy.2 ⟨rfl, hgiven⟩
    have hsnoc : ((choices ++ [choice]).map Choice.setting).Nodup ↔
        choice.setting ∉ choices.map Choice.setting := by
      rw [List.map_append, List.map_singleton, List.nodup_append]
      simp [hnodup]
    have hcons : choices ++ choice :: chosen = choices ++ [choice] ++ chosen := by simp
    rw [readFrom_spelling hspells, hcons]
    constructor
    · rintro ⟨new, hnew, hok⟩
      obtain ⟨hfresh, _, hread', rfl⟩ := choose_eq_ok_iff.1 hnew
      cases hread.symm.trans hread'
      exact (ih (hsnoc.2 hfresh)).1 hok
    · intro hok
      have hall := hok.1
      rw [List.map_append] at hall
      have hfresh := (List.nodup_append.1 hall).1
      exact ⟨_, choose_eq_ok_iff.2 ⟨hsnoc.1 hfresh, choice, hread, rfl⟩, (ih hfresh).2 hok⟩

-- A value that looks like an option has to stand in the same argument.
example : (read (["--url=-x", "-k-"].map Utf8.encode)).toOption.map
    (fun config => (config.endpoint, config.multiplier, config.keypair)) =
      some ("-x", 100, some (Utf8.encode "-")) := by decide +kernel

end ClusterProbe.CommandLine
