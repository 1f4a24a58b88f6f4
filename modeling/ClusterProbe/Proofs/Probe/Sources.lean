import ClusterProbe.Proofs.Probe.Submissions

/-!
# What a failed probe comes from

The fault of a probe may come from another error, and that one from a further error.  A report of it
goes through all of them, down to one that comes from no other.  What a fault itself comes from is
nothing made up: the last call has failed with it, or the address was refused for it.
-/

namespace ClusterProbe

/-- An error that a report goes through. -/
inductive Link where
  | probe (fault : ProbeFault)
  /-- Why a text is no address. -/
  | address (fault : Base58.Fault)
  /-- What a call has failed with. -/
  | call (fault : LedgerFault)
  /-- The same error once more, as one of its kind. -/
  | kind (fault : LedgerFault)
  | endpoint (fault : Rpc.Endpoint.Fault)
  | json (error : Json.Error)
  /-- A node that does not listen, to the client. -/
  | connector
  /-- A node that does not listen, to the transport. -/
  | stream
  /-- A node that does not listen, to the operating system. -/
  | system

namespace Link

def text : Link → String
  | probe fault => fault.message
  | address fault => fault.message
  | call fault => fault.message
  | kind fault => fault.message
  | endpoint fault => fault.message
  | json error => error.message
  | connector => "error trying to connect: tcp connect error: Connection refused (os error 111)"
  | stream => "tcp connect error: Connection refused (os error 111)"
  | system => "Connection refused (os error 111)"

/-- The error that an error comes from. -/
def source? : Link → Option Link
  | probe (.unreachable _ fault) => some (call fault)
  | probe (.badAddress _ fault) => some (address fault)
  | probe (.badKeypair ..) => none
  | probe (.rejected _ fault) => some (call fault)
  | probe (.unconfirmed _ _ fault) => some (call fault)
  | probe (.airdropTooLarge ..) => none
  | probe (.interrupted _) => none
  | call fault => some (kind fault)
  | kind (.http (.badUrl fault)) => some (endpoint fault)
  | kind (.http (.refused _)) => some connector
  | kind (.http (.body error)) => some (json error)
  | connector => some stream
  | stream => some system
  | _ => none

/-- The texts of an error and of all that it comes from, one after the other. -/
inductive Chain : Link → List String → Prop where
  | root {link : Link} (h : link.source? = none) : Chain link [link.text]
  | step {link source : Link} {texts : List String} (h : link.source? = some source)
      (rest : Chain source texts) : Chain link (link.text :: texts)

namespace Chain

/-- An error comes from one other at most, so there is one way down from it. -/
theorem unique {link : Link} {texts texts' : List String} (h : Chain link texts)
    (h' : Chain link texts') : texts = texts' := by
  induction h generalizing texts' with
  | root hroot =>
    cases h' with
    | root _ => rfl
    | step hstep _ =>
      rw [hroot] at hstep
      cases hstep
  | step hstep _ ih =>
    cases h' with
    | root hroot =>
      rw [hstep] at hroot
      cases hroot
    | step hstep' rest' =>
      obtain rfl := Option.some.inj (hstep.symm.trans hstep')
      rw [ih rest']

/-- Below the kind of a call's error is what the transport has met with, if it is one of that. -/
theorem call (fault : LedgerFault) : Chain (.call fault) fault.chain := by
  refine .step rfl ?_
  cases fault with
  | http fault =>
    cases fault with
    | badUrl fault => exact .step rfl (.root rfl)
    | refused url => exact .step rfl (.step rfl (.step rfl (.root rfl)))
    | status code url => exact .root rfl
    | body error => exact .step rfl (.root rfl)
  | _ => exact .root rfl

/-- The causes of a fault are all that it comes from. -/
theorem probe_iff {fault : ProbeFault} {texts : List String} :
    Chain (.probe fault) texts ↔ texts = fault.message :: fault.causes := by
  have hcauses : Chain (.probe fault) (fault.message :: fault.causes) := by
    cases fault with
    | unreachable endpoint source => exact .step rfl (call source)
    | badAddress address source => exact .step rfl (.root rfl)
    | badKeypair path reason => exact .root rfl
    | rejected submission source => exact .step rfl (call source)
    | unconfirmed submission signature source => exact .step rfl (call source)
    | airdropTooLarge fee multiplier => exact .root rfl
    | interrupted step => exact .root rfl
  constructor
  · intro h
    exact h.unique hcauses
  · rintro rfl
    exact hcauses

end Chain

/-- An error that has happened in a run with the given calls and outcomes. -/
inductive Happened (config : Config) (history : List Event) : Link → Prop where
  | call {call : Call} {fault : LedgerFault}
      (last : history.getLast? = some ⟨call, .error (.failed fault)⟩) :
      Happened config history (.call fault)
  | address {fault : Base58.Fault} (h : PublicKey.ofBase58 config.address = .error fault) :
      Happened config history (.address fault)

end Link

/-- A call that failed is the last one. -/
theorem Along.getLast?_of_error {final result : Probe.Result} {legs : List Leg}
    {history : List Event} {flag : Bool} (h : Along final legs history result flag) {call : Call}
    {abort : Abort LedgerFault} (hmem : ⟨call, .error abort⟩ ∈ history) :
    history.getLast? = some ⟨call, .error abort⟩ := by
  obtain ⟨before, leg, after, -, -, rfl, -⟩ := h.exists_leg_of_error hmem
  simp

/-- Whatever the call that failed, the fault comes from the error of it, or from none. -/
theorem Leg.Kind.source?_blame {config : Config} {leg : Leg} (h : leg.Kind config)
    (fault : LedgerFault) (flag : Bool) {source : Link}
    (hsource : (Link.probe (leg.blame fault flag)).source? = some source) :
    source = .call fault := by
  cases h with
  | query call answer _ => exact (Option.some.inj hsource).symm
  | hand submission call answer _ => exact (Option.some.inj hsource).symm
  | wait step submission signature =>
    cases flag with
    | true => cases hsource
    | false => exact (Option.some.inj hsource).symm

/-- What the fault of a probe comes from has happened in its run. -/
theorem Probe.happened_of_failed {σ : Type} {config : Config} {around : Surroundings}
    {ledger : Ledger σ} {state : σ} {flag : Bool} {fault : ProbeFault}
    (h : (run config around ledger state flag).result = .error (.failed fault)) {source : Link}
    (hsource : (Link.probe fault).source? = some source) :
    source.Happened config (run config around ledger state flag).history := by
  obtain ⟨it, hit, along⟩ := exists_along_run config around ledger state flag
  by_cases hfinal : (run config around ledger state flag).result = it.result
  · -- Of what may stand at the end of the legs, only a bad address comes from something.
    rw [hfinal] at h
    cases hit with
    | badAddress fault haddress =>
      cases h
      cases hsource
      exact .address haddress
    | tooLarge program version fee _ _ =>
      cases h
      cases hsource
    | badKeypair program version fee path fault _ _ _ _ =>
      cases h
      cases hsource
    | whole plan fits => cases h
  · rcases along.exists_leg_of_failed hfinal h with
      ⟨step, rfl⟩ | ⟨leg, hleg, failure, hmem, rfl⟩
    · cases hsource
    · obtain rfl := (hit.kind leg hleg).source?_blame failure _ hsource
      exact .call (along.getLast?_of_error hmem)

end ClusterProbe
