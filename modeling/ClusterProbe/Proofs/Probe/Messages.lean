import ClusterProbe.Probe.Fault
import ClusterProbe.Proofs.Address
import ClusterProbe.Proofs.Decimal
import ClusterProbe.Proofs.Quoted

/-!
# The texts of failed probes

The text of a fault tells what kind of fault it is, and all that it names besides: no two kinds
begin with the same words, and what stands between the words can be read back.  Only the path of a
key pair file runs into the reason behind it.
-/

namespace ClusterProbe

theorem Step.name_inj {step step' : Step} : step.name = step'.name ↔ step = step' := by
  cases step <;> cases step' <;> simp [name]

namespace ProbeFault

/-- What the text of a fault names.  A submission is named with its signature, if it was taken under
one. -/
inductive Shown where
  | unreachable (endpoint : String)
  | badAddress (address : String)
  /-- The path and the reason are one text. -/
  | badKeypair (pathAndReason : String)
  | airdrop (lamports : UInt64) (signature : Option Signature)
  | transaction (signature : Option Signature)
  | airdropTooLarge (fee multiplier : UInt64)
  | interrupted (step : Step)

def shown : ProbeFault → Shown
  | unreachable endpoint _ => .unreachable endpoint
  | badAddress address _ => .badAddress address
  | badKeypair path reason => .badKeypair (Utf8.decodeLossy path ++ ": " ++ reason)
  | rejected (.airdrop lamports) _ => .airdrop lamports none
  | rejected .transaction _ => .transaction none
  | unconfirmed (.airdrop lamports) signature _ => .airdrop lamports (some signature)
  | unconfirmed .transaction signature _ => .transaction (some signature)
  | airdropTooLarge fee multiplier => .airdropTooLarge fee multiplier
  | interrupted step => .interrupted step

/-! ## The words that a text begins with -/

/-- The kinds of faults that a text tells apart. -/
inductive Kind where
  | unreachable
  | badAddress
  | badKeypair
  | airdrop
  | transaction
  | airdropTooLarge
  | interrupted

namespace Kind

def words : Kind → String
  | unreachable => "rpc endpoint "
  | badAddress => "invalid program address "
  | badKeypair => "cannot read payer keypair "
  | airdrop => "airdrop of "
  | transaction => "transaction not confirmed"
  | airdropTooLarge => "airdrop amount overflows: "
  | interrupted => "interrupted before "

/-- Any two kinds differ in the first nine characters. -/
theorem eq_of_take_words {kind kind' : Kind}
    (h : kind.words.toList.take 9 = kind'.words.toList.take 9) : kind = kind' := by
  cases kind <;> cases kind' <;> first | rfl | simp [words] at h

theorem take_words_append (kind : Kind) (rest : String) :
    (kind.words ++ rest).toList.take 9 = kind.words.toList.take 9 := by
  have hlength : 9 ≤ kind.words.toList.length := by
    cases kind <;> simp [words]
  rw [String.toList_append, List.take_append_of_le_length hlength]

/-- The words tell the kind, whatever follows them. -/
theorem words_append_inj {kind kind' : Kind} {rest rest' : String} :
    kind.words ++ rest = kind'.words ++ rest' ↔ kind = kind' ∧ rest = rest' := by
  constructor
  · intro h
    have htake : kind.words.toList.take 9 = kind'.words.toList.take 9 := by
      rw [← take_words_append kind rest, h, take_words_append]
    obtain rfl := eq_of_take_words htake
    exact ⟨rfl, (String.append_right_inj _).1 h⟩
  · rintro ⟨rfl, rfl⟩
    rfl

end Kind

/-! ## What stands behind the words -/

/-- What is said of the signature of a submission that was not confirmed. -/
def handing : Option Signature → String
  | none => " (request rejected)"
  | some signature => " (signature " ++ signature.toBase58 ++ ")"

theorem handing_some_ne_none (signature : Signature) : handing (some signature) ≠ handing none := by
  intro h
  have hthird := congrArg (fun text => text.toList[2]?) h
  simp [handing] at hthird

theorem handing_inj {signature signature' : Option Signature} :
    handing signature = handing signature' ↔ signature = signature' := by
  cases signature with
  | none =>
    cases signature' with
    | none => exact iff_of_true rfl rfl
    | some own => exact iff_of_false (handing_some_ne_none own).symm nofun
  | some own =>
    cases signature' with
    | none => exact iff_of_false (handing_some_ne_none own) nofun
    | some own' =>
      rw [handing, handing, String.append_left_inj, String.append_right_inj, Octets.toBase58_inj,
        Option.some.injEq]

/-- A number and what follows the blank behind it can be told apart. -/
theorem number_append_inj {n n' : UInt64} {rest rest' : String} :
    Decimal.text n.toNat ++ (" " ++ rest) = Decimal.text n'.toNat ++ (" " ++ rest') ↔
      n = n' ∧ rest = rest' := by
  have hblank : " ".toList = [' '] := rfl
  simp only [← String.toList_inj, String.toList_append, hblank, List.singleton_append]
  exact Decimal.text_append_inj

namespace Shown

def kind : Shown → Kind
  | unreachable _ => .unreachable
  | badAddress _ => .badAddress
  | badKeypair _ => .badKeypair
  | airdrop .. => .airdrop
  | transaction _ => .transaction
  | airdropTooLarge .. => .airdropTooLarge
  | interrupted _ => .interrupted

/-- The text behind the words of the kind. -/
def rest : Shown → String
  | unreachable endpoint => endpoint ++ " unreachable"
  | badAddress address => Text.quoted address
  | badKeypair pathAndReason => pathAndReason
  | airdrop lamports signature =>
    Decimal.text lamports.toNat ++ (" " ++ ("lamports not confirmed" ++ handing signature))
  | transaction signature => handing signature
  | airdropTooLarge fee multiplier =>
    Decimal.text fee.toNat ++ (" " ++ ("lamports x " ++ Decimal.text multiplier.toNat))
  | interrupted step => step.name

/-- The text behind the words can be read back. -/
theorem eq_of_rest {s t : Shown} (hkind : s.kind = t.kind) (h : s.rest = t.rest) : s = t := by
  cases s with
  | unreachable endpoint =>
    cases t <;> cases hkind
    rw [rest, rest, String.append_left_inj] at h
    rw [h]
  | badAddress address =>
    cases t <;> cases hkind
    rw [Text.quoted_inj.1 h]
  | badKeypair both =>
    cases t <;> cases hkind
    exact congrArg badKeypair h
  | airdrop lamports signature =>
    cases t <;> cases hkind
    rw [rest, rest, number_append_inj, String.append_right_inj, handing_inj] at h
    rw [h.1, h.2]
  | transaction signature =>
    cases t <;> cases hkind
    rw [handing_inj.1 h]
  | airdropTooLarge fee multiplier =>
    cases t <;> cases hkind
    rw [rest, rest, number_append_inj, String.append_right_inj, Decimal.text_inj] at h
    rw [h.1, h.2]
  | interrupted step =>
    cases t <;> cases hkind
    rw [Step.name_inj.1 h]

end Shown

theorem failure_airdrop_append (lamports : UInt64) (text : String) :
    (Submission.airdrop lamports).failure ++ text =
      "airdrop of " ++
        (Decimal.text lamports.toNat ++ (" " ++ ("lamports not confirmed" ++ text))) := by
  have hblank : " lamports not confirmed" = " " ++ "lamports not confirmed" := rfl
  simp only [Submission.failure, hblank, String.append_assoc]

/-- The words are the first ones of the text, and all else that it tells stands behind them. -/
theorem message_eq_words_append (fault : ProbeFault) :
    fault.message = fault.shown.kind.words ++ fault.shown.rest := by
  cases fault with
  | unreachable endpoint source => exact String.append_assoc
  | badAddress address source => rfl
  | badKeypair path reason =>
    show "cannot read payer keypair " ++ Utf8.decodeLossy path ++ ": " ++ reason =
      "cannot read payer keypair " ++ (Utf8.decodeLossy path ++ ": " ++ reason)
    rw [String.append_assoc, String.append_assoc, String.append_assoc]
  | rejected submission source =>
    cases submission with
    | airdrop lamports => exact failure_airdrop_append lamports (handing none)
    | transaction => rfl
  | unconfirmed submission signature source =>
    have hmessage : message (.unconfirmed submission signature source) =
        submission.failure ++ handing (some signature) := by
      show submission.failure ++ " (signature " ++ signature.toBase58 ++ ")" =
        submission.failure ++ (" (signature " ++ signature.toBase58 ++ ")")
      rw [String.append_assoc, String.append_assoc, String.append_assoc]
    rw [hmessage]
    cases submission with
    | airdrop lamports => exact failure_airdrop_append lamports (handing (some signature))
    | transaction => rfl
  | airdropTooLarge fee multiplier =>
    have hblank : " lamports x " = " " ++ "lamports x " := rfl
    have hmessage : message (.airdropTooLarge fee multiplier) =
        "airdrop amount overflows: " ++ (Decimal.text fee.toNat ++ " lamports x " ++
          Decimal.text multiplier.toNat) := by
      show "airdrop amount overflows: " ++ Decimal.text fee.toNat ++ " lamports x " ++
        Decimal.text multiplier.toNat = _
      rw [String.append_assoc, String.append_assoc, String.append_assoc]
    rw [hmessage, hblank, String.append_assoc, String.append_assoc]
    rfl
  | interrupted step => rfl

/-- Two faults have the same text just if they name the same: they are of one kind, and have the
same endpoint, address, airdrop, signature, fee and multiplier, or step, if the kind has any.  Of a
quoted address nothing is lost, and between its marks there is no open mark and no control
character. -/
theorem message_inj :
    (∀ fault fault' : ProbeFault, fault.message = fault'.message ↔ fault.shown = fault'.shown) ∧
    (∀ address address' : String,
      Text.quoted address = Text.quoted address' ↔ address = address') ∧
    ∀ address : String, ∃ body, (Text.quoted address).toList = '"' :: body ++ ['"'] ∧
      Text.Escaped '"' body ∧ ∀ c ∈ body, ¬ Text.IsControl c := by
  refine ⟨fun fault fault' => ?_, fun _ _ => Text.quoted_inj, Text.exists_body_quoted⟩
  rw [message_eq_words_append, message_eq_words_append, Kind.words_append_inj]
  constructor
  · rintro ⟨hkind, hrest⟩
    exact Shown.eq_of_rest hkind hrest
  · intro h
    rw [h]
    exact ⟨rfl, rfl⟩

end ProbeFault

end ClusterProbe
