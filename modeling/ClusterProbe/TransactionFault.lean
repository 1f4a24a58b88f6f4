import ClusterProbe.Text.Decimal
import ClusterProbe.Text.Quoted

/-!
# Failed transactions

Why a cluster did not carry out a transaction, in the cluster's own vocabulary: each fault has a
name in its reports, and a text.
-/

namespace ClusterProbe

/-- A fault of one instruction without further detail. -/
inductive InstructionFault.Plain where
  | genericError
  | invalidArgument
  | invalidInstructionData
  | invalidAccountData
  | accountDataTooSmall
  | insufficientFunds
  | incorrectProgramId
  | missingRequiredSignature
  | accountAlreadyInitialized
  | uninitializedAccount
  | unbalancedInstruction
  | modifiedProgramId
  | externalAccountLamportSpend
  | externalAccountDataModified
  | readonlyLamportChange
  | readonlyDataModified
  | duplicateAccountIndex
  | executableModified
  | rentEpochModified
  | notEnoughAccountKeys
  | accountDataSizeChanged
  | accountNotExecutable
  | accountBorrowFailed
  | accountBorrowOutstanding
  | duplicateAccountOutOfSync
  | invalidError
  | executableDataModified
  | executableLamportChange
  | executableAccountNotRentExempt
  | unsupportedProgramId
  | callDepth
  | missingAccount
  | reentrancyNotAllowed
  | maxSeedLengthExceeded
  | invalidSeeds
  | invalidRealloc
  | computationalBudgetExceeded
  | privilegeEscalation
  | programEnvironmentSetupFailure
  | programFailedToComplete
  | programFailedToCompile
  | immutable
  | incorrectAuthority
  | accountNotRentExempt
  | invalidAccountOwner
  | arithmeticOverflow
  | unsupportedSysvar
  | illegalOwner
  | maxAccountsDataAllocationsExceeded
  | maxAccountsExceeded
  | maxInstructionTraceLengthExceeded
  | builtinProgramsMustConsumeComputeUnits
deriving DecidableEq, Repr

inductive InstructionFault where
  | plain (kind : InstructionFault.Plain)
  | custom (code : Nat)
  /-- Data that the program could not read or write. -/
  | serialization (text : String)
deriving DecidableEq, Repr

namespace InstructionFault

def Plain.name : Plain → String
  | .genericError => "GenericError"
  | .invalidArgument => "InvalidArgument"
  | .invalidInstructionData => "InvalidInstructionData"
  | .invalidAccountData => "InvalidAccountData"
  | .accountDataTooSmall => "AccountDataTooSmall"
  | .insufficientFunds => "InsufficientFunds"
  | .incorrectProgramId => "IncorrectProgramId"
  | .missingRequiredSignature => "MissingRequiredSignature"
  | .accountAlreadyInitialized => "AccountAlreadyInitialized"
  | .uninitializedAccount => "UninitializedAccount"
  | .unbalancedInstruction => "UnbalancedInstruction"
  | .modifiedProgramId => "ModifiedProgramId"
  | .externalAccountLamportSpend => "ExternalAccountLamportSpend"
  | .externalAccountDataModified => "ExternalAccountDataModified"
  | .readonlyLamportChange => "ReadonlyLamportChange"
  | .readonlyDataModified => "ReadonlyDataModified"
  | .duplicateAccountIndex => "DuplicateAccountIndex"
  | .executableModified => "ExecutableModified"
  | .rentEpochModified => "RentEpochModified"
  | .notEnoughAccountKeys => "NotEnoughAccountKeys"
  | .accountDataSizeChanged => "AccountDataSizeChanged"
  | .accountNotExecutable => "AccountNotExecutable"
  | .accountBorrowFailed => "AccountBorrowFailed"
  | .accountBorrowOutstanding => "AccountBorrowOutstanding"
  | .duplicateAccountOutOfSync => "DuplicateAccountOutOfSync"
  | .invalidError => "InvalidError"
  | .executableDataModified => "ExecutableDataModified"
  | .executableLamportChange => "ExecutableLamportChange"
  | .executableAccountNotRentExempt => "ExecutableAccountNotRentExempt"
  | .unsupportedProgramId => "UnsupportedProgramId"
  | .callDepth => "CallDepth"
  | .missingAccount => "MissingAccount"
  | .reentrancyNotAllowed => "ReentrancyNotAllowed"
  | .maxSeedLengthExceeded => "MaxSeedLengthExceeded"
  | .invalidSeeds => "InvalidSeeds"
  | .invalidRealloc => "InvalidRealloc"
  | .computationalBudgetExceeded => "ComputationalBudgetExceeded"
  | .privilegeEscalation => "PrivilegeEscalation"
  | .programEnvironmentSetupFailure => "ProgramEnvironmentSetupFailure"
  | .programFailedToComplete => "ProgramFailedToComplete"
  | .programFailedToCompile => "ProgramFailedToCompile"
  | .immutable => "Immutable"
  | .incorrectAuthority => "IncorrectAuthority"
  | .accountNotRentExempt => "AccountNotRentExempt"
  | .invalidAccountOwner => "InvalidAccountOwner"
  | .arithmeticOverflow => "ArithmeticOverflow"
  | .unsupportedSysvar => "UnsupportedSysvar"
  | .illegalOwner => "IllegalOwner"
  | .maxAccountsDataAllocationsExceeded => "MaxAccountsDataAllocationsExceeded"
  | .maxAccountsExceeded => "MaxAccountsExceeded"
  | .maxInstructionTraceLengthExceeded => "MaxInstructionTraceLengthExceeded"
  | .builtinProgramsMustConsumeComputeUnits => "BuiltinProgramsMustConsumeComputeUnits"

def Plain.message : Plain → String
  | .genericError => "generic instruction error"
  | .invalidArgument => "invalid program argument"
  | .invalidInstructionData => "invalid instruction data"
  | .invalidAccountData => "invalid account data for instruction"
  | .accountDataTooSmall => "account data too small for instruction"
  | .insufficientFunds => "insufficient funds for instruction"
  | .incorrectProgramId => "incorrect program id for instruction"
  | .missingRequiredSignature => "missing required signature for instruction"
  | .accountAlreadyInitialized => "instruction requires an uninitialized account"
  | .uninitializedAccount => "instruction requires an initialized account"
  | .unbalancedInstruction => "sum of account balances before and after instruction do not match"
  | .modifiedProgramId => "instruction illegally modified the program id of an account"
  | .externalAccountLamportSpend =>
    "instruction spent from the balance of an account it does not own"
  | .externalAccountDataModified => "instruction modified data of an account it does not own"
  | .readonlyLamportChange => "instruction changed the balance of a read-only account"
  | .readonlyDataModified => "instruction modified data of a read-only account"
  | .duplicateAccountIndex => "instruction contains duplicate accounts"
  | .executableModified => "instruction changed executable bit of an account"
  | .rentEpochModified => "instruction modified rent epoch of an account"
  | .notEnoughAccountKeys => "insufficient account keys for instruction"
  | .accountDataSizeChanged =>
    "program other than the account's owner changed the size of the account data"
  | .accountNotExecutable => "instruction expected an executable account"
  | .accountBorrowFailed =>
    "instruction tries to borrow reference for an account which is already borrowed"
  | .accountBorrowOutstanding => "instruction left account with an outstanding borrowed reference"
  | .duplicateAccountOutOfSync => "instruction modifications of multiply-passed account differ"
  | .invalidError => "program returned invalid error code"
  | .executableDataModified => "instruction changed executable accounts data"
  | .executableLamportChange => "instruction changed the balance of an executable account"
  | .executableAccountNotRentExempt => "executable accounts must be rent exempt"
  | .unsupportedProgramId => "Unsupported program id"
  | .callDepth => "Cross-program invocation call depth too deep"
  | .missingAccount => "An account required by the instruction is missing"
  | .reentrancyNotAllowed => "Cross-program invocation reentrancy not allowed for this instruction"
  | .maxSeedLengthExceeded => "Length of the seed is too long for address generation"
  | .invalidSeeds => "Provided seeds do not result in a valid address"
  | .invalidRealloc => "Failed to reallocate account data"
  | .computationalBudgetExceeded => "Computational budget exceeded"
  | .privilegeEscalation => "Cross-program invocation with unauthorized signer or writable account"
  | .programEnvironmentSetupFailure => "Failed to create program execution environment"
  | .programFailedToComplete => "Program failed to complete"
  | .programFailedToCompile => "Program failed to compile"
  | .immutable => "Account is immutable"
  | .incorrectAuthority => "Incorrect authority provided"
  | .accountNotRentExempt => "An account does not have enough lamports to be rent-exempt"
  | .invalidAccountOwner => "Invalid account owner"
  | .arithmeticOverflow => "Program arithmetic overflowed"
  | .unsupportedSysvar => "Unsupported sysvar"
  | .illegalOwner => "Provided owner is not allowed"
  | .maxAccountsDataAllocationsExceeded =>
    "Accounts data allocations exceeded the maximum allowed per transaction"
  | .maxAccountsExceeded => "Max accounts exceeded"
  | .maxInstructionTraceLengthExceeded => "Max instruction trace length exceeded"
  | .builtinProgramsMustConsumeComputeUnits => "Builtin programs must consume compute units"

/-- A place in the list of names: a fault without detail, or the name of one with detail. -/
inductive Kind where
  | plain (kind : Plain)
  | custom
  | serialization
deriving DecidableEq, Repr

def Kind.name : Kind → String
  | .plain kind => kind.name
  | .custom => "Custom"
  | .serialization => "BorshIoError"

/-- Every kind of fault, in the order of the reports' vocabulary. -/
def Kind.all : List Kind :=
  [.plain .genericError, .plain .invalidArgument, .plain .invalidInstructionData,
   .plain .invalidAccountData, .plain .accountDataTooSmall, .plain .insufficientFunds,
   .plain .incorrectProgramId, .plain .missingRequiredSignature, .plain .accountAlreadyInitialized,
   .plain .uninitializedAccount, .plain .unbalancedInstruction, .plain .modifiedProgramId,
   .plain .externalAccountLamportSpend, .plain .externalAccountDataModified,
   .plain .readonlyLamportChange, .plain .readonlyDataModified, .plain .duplicateAccountIndex,
   .plain .executableModified, .plain .rentEpochModified, .plain .notEnoughAccountKeys,
   .plain .accountDataSizeChanged, .plain .accountNotExecutable, .plain .accountBorrowFailed,
   .plain .accountBorrowOutstanding, .plain .duplicateAccountOutOfSync, .custom,
   .plain .invalidError, .plain .executableDataModified, .plain .executableLamportChange,
   .plain .executableAccountNotRentExempt, .plain .unsupportedProgramId, .plain .callDepth,
   .plain .missingAccount, .plain .reentrancyNotAllowed, .plain .maxSeedLengthExceeded,
   .plain .invalidSeeds, .plain .invalidRealloc, .plain .computationalBudgetExceeded,
   .plain .privilegeEscalation, .plain .programEnvironmentSetupFailure,
   .plain .programFailedToComplete, .plain .programFailedToCompile, .plain .immutable,
   .plain .incorrectAuthority, .serialization, .plain .accountNotRentExempt,
   .plain .invalidAccountOwner, .plain .arithmeticOverflow, .plain .unsupportedSysvar,
   .plain .illegalOwner, .plain .maxAccountsDataAllocationsExceeded, .plain .maxAccountsExceeded,
   .plain .maxInstructionTraceLengthExceeded, .plain .builtinProgramsMustConsumeComputeUnits]

/-- The fault in words; a program's own number is in hexadecimal. -/
def message : InstructionFault → String
  | .plain kind => kind.message
  | .custom code => "custom program error: 0x" ++ String.ofList (Text.hex code)
  | .serialization text => "Failed to serialize or deserialize account data: " ++ text

end InstructionFault

inductive TransactionFault.Plain where
  | accountInUse
  | accountLoadedTwice
  | accountNotFound
  | programAccountNotFound
  | insufficientFundsForFee
  | invalidAccountForFee
  | alreadyProcessed
  | blockhashNotFound
  | callChainTooDeep
  | missingSignatureForFee
  | invalidAccountIndex
  | signatureFailure
  | invalidProgramForExecution
  | sanitizeFailure
  | clusterMaintenance
  | accountBorrowOutstanding
  | wouldExceedMaxBlockCostLimit
  | unsupportedVersion
  | invalidWritableAccount
  | wouldExceedMaxAccountCostLimit
  | wouldExceedAccountDataBlockLimit
  | tooManyAccountLocks
  | addressLookupTableNotFound
  | invalidAddressLookupTableOwner
  | invalidAddressLookupTableData
  | invalidAddressLookupTableIndex
  | invalidRentPayingAccount
  | wouldExceedMaxVoteCostLimit
  | wouldExceedAccountDataTotalLimit
  | maxLoadedAccountsDataSizeExceeded
  | invalidLoadedAccountsDataSizeLimit
  | resanitizationNeeded
  | unbalancedTransaction
deriving DecidableEq, Repr

inductive TransactionFault where
  | plain (kind : TransactionFault.Plain)
  | instruction (index : Nat) (fault : InstructionFault)
  | duplicateInstruction (index : Nat)
  /-- An account would be left with too little for its rent. -/
  | insufficientFundsForRent (account : Nat)
  /-- The program of an account may not run for the time being. -/
  | programRestricted (account : Nat)
deriving DecidableEq, Repr

namespace TransactionFault

def Plain.name : Plain → String
  | .accountInUse => "AccountInUse"
  | .accountLoadedTwice => "AccountLoadedTwice"
  | .accountNotFound => "AccountNotFound"
  | .programAccountNotFound => "ProgramAccountNotFound"
  | .insufficientFundsForFee => "InsufficientFundsForFee"
  | .invalidAccountForFee => "InvalidAccountForFee"
  | .alreadyProcessed => "AlreadyProcessed"
  | .blockhashNotFound => "BlockhashNotFound"
  | .callChainTooDeep => "CallChainTooDeep"
  | .missingSignatureForFee => "MissingSignatureForFee"
  | .invalidAccountIndex => "InvalidAccountIndex"
  | .signatureFailure => "SignatureFailure"
  | .invalidProgramForExecution => "InvalidProgramForExecution"
  | .sanitizeFailure => "SanitizeFailure"
  | .clusterMaintenance => "ClusterMaintenance"
  | .accountBorrowOutstanding => "AccountBorrowOutstanding"
  | .wouldExceedMaxBlockCostLimit => "WouldExceedMaxBlockCostLimit"
  | .unsupportedVersion => "UnsupportedVersion"
  | .invalidWritableAccount => "InvalidWritableAccount"
  | .wouldExceedMaxAccountCostLimit => "WouldExceedMaxAccountCostLimit"
  | .wouldExceedAccountDataBlockLimit => "WouldExceedAccountDataBlockLimit"
  | .tooManyAccountLocks => "TooManyAccountLocks"
  | .addressLookupTableNotFound => "AddressLookupTableNotFound"
  | .invalidAddressLookupTableOwner => "InvalidAddressLookupTableOwner"
  | .invalidAddressLookupTableData => "InvalidAddressLookupTableData"
  | .invalidAddressLookupTableIndex => "InvalidAddressLookupTableIndex"
  | .invalidRentPayingAccount => "InvalidRentPayingAccount"
  | .wouldExceedMaxVoteCostLimit => "WouldExceedMaxVoteCostLimit"
  | .wouldExceedAccountDataTotalLimit => "WouldExceedAccountDataTotalLimit"
  | .maxLoadedAccountsDataSizeExceeded => "MaxLoadedAccountsDataSizeExceeded"
  | .invalidLoadedAccountsDataSizeLimit => "InvalidLoadedAccountsDataSizeLimit"
  | .resanitizationNeeded => "ResanitizationNeeded"
  | .unbalancedTransaction => "UnbalancedTransaction"

def Plain.message : Plain → String
  | .accountInUse => "Account in use"
  | .accountLoadedTwice => "Account loaded twice"
  | .accountNotFound => "Attempt to debit an account but found no record of a prior credit."
  | .programAccountNotFound => "Attempt to load a program that does not exist"
  | .insufficientFundsForFee => "Insufficient funds for fee"
  | .invalidAccountForFee => "This account may not be used to pay transaction fees"
  | .alreadyProcessed => "This transaction has already been processed"
  | .blockhashNotFound => "Blockhash not found"
  | .callChainTooDeep => "Loader call chain is too deep"
  | .missingSignatureForFee => "Transaction requires a fee but has no signature present"
  | .invalidAccountIndex => "Transaction contains an invalid account reference"
  | .signatureFailure => "Transaction did not pass signature verification"
  | .invalidProgramForExecution => "This program may not be used for executing instructions"
  | .sanitizeFailure => "Transaction failed to sanitize accounts offsets correctly"
  | .clusterMaintenance => "Transactions are currently disabled due to cluster maintenance"
  | .accountBorrowOutstanding =>
    "Transaction processing left an account with an outstanding borrowed reference"
  | .wouldExceedMaxBlockCostLimit => "Transaction would exceed max Block Cost Limit"
  | .unsupportedVersion => "Transaction version is unsupported"
  | .invalidWritableAccount => "Transaction loads a writable account that cannot be written"
  | .wouldExceedMaxAccountCostLimit => "Transaction would exceed max account limit within the block"
  | .wouldExceedAccountDataBlockLimit =>
    "Transaction would exceed account data limit within the block"
  | .tooManyAccountLocks => "Transaction locked too many accounts"
  | .addressLookupTableNotFound => "Transaction loads an address table account that doesn't exist"
  | .invalidAddressLookupTableOwner =>
    "Transaction loads an address table account with an invalid owner"
  | .invalidAddressLookupTableData => "Transaction loads an address table account with invalid data"
  | .invalidAddressLookupTableIndex => "Transaction address table lookup uses an invalid index"
  | .invalidRentPayingAccount =>
    "Transaction leaves an account with a lower balance than rent-exempt minimum"
  | .wouldExceedMaxVoteCostLimit => "Transaction would exceed max Vote Cost Limit"
  | .wouldExceedAccountDataTotalLimit => "Transaction would exceed total account data limit"
  | .maxLoadedAccountsDataSizeExceeded => "Transaction exceeded max loaded accounts data size cap"
  | .invalidLoadedAccountsDataSizeLimit =>
    "LoadedAccountsDataSizeLimit set for transaction must be greater than 0."
  | .resanitizationNeeded => "ResanitizationNeeded"
  | .unbalancedTransaction => "Sum of account balances before and after transaction do not match"

/-- A place in the list of names: a fault without detail, or the name of one with detail. -/
inductive Kind where
  | plain (kind : Plain)
  | instruction
  | duplicateInstruction
  | insufficientFundsForRent
  | programRestricted
deriving DecidableEq, Repr

def Kind.name : Kind → String
  | .plain kind => kind.name
  | .instruction => "InstructionError"
  | .duplicateInstruction => "DuplicateInstruction"
  | .insufficientFundsForRent => "InsufficientFundsForRent"
  | .programRestricted => "ProgramExecutionTemporarilyRestricted"

/-- Every kind of fault, in the order of the reports' vocabulary. -/
def Kind.all : List Kind :=
  [.plain .accountInUse, .plain .accountLoadedTwice, .plain .accountNotFound,
   .plain .programAccountNotFound, .plain .insufficientFundsForFee, .plain .invalidAccountForFee,
   .plain .alreadyProcessed, .plain .blockhashNotFound, .instruction, .plain .callChainTooDeep,
   .plain .missingSignatureForFee, .plain .invalidAccountIndex, .plain .signatureFailure,
   .plain .invalidProgramForExecution, .plain .sanitizeFailure, .plain .clusterMaintenance,
   .plain .accountBorrowOutstanding, .plain .wouldExceedMaxBlockCostLimit,
   .plain .unsupportedVersion, .plain .invalidWritableAccount,
   .plain .wouldExceedMaxAccountCostLimit, .plain .wouldExceedAccountDataBlockLimit,
   .plain .tooManyAccountLocks, .plain .addressLookupTableNotFound,
   .plain .invalidAddressLookupTableOwner, .plain .invalidAddressLookupTableData,
   .plain .invalidAddressLookupTableIndex, .plain .invalidRentPayingAccount,
   .plain .wouldExceedMaxVoteCostLimit, .plain .wouldExceedAccountDataTotalLimit,
   .duplicateInstruction, .insufficientFundsForRent, .plain .maxLoadedAccountsDataSizeExceeded,
   .plain .invalidLoadedAccountsDataSizeLimit, .plain .resanitizationNeeded, .programRestricted,
   .plain .unbalancedTransaction]

def message : TransactionFault → String
  | .plain kind => kind.message
  | .instruction index fault =>
    "Error processing Instruction " ++ Decimal.text index ++ ": " ++ fault.message
  | .duplicateInstruction index =>
    "Transaction contains a duplicate instruction (" ++ Decimal.text index ++
      ") that is not allowed"
  | .insufficientFundsForRent account =>
    "Transaction results in an account (" ++ Decimal.text account ++
      ") with insufficient funds for rent"
  | .programRestricted account =>
    "Execution of the program referenced by account at index " ++ Decimal.text account ++
      " is temporarily restricted."

end TransactionFault

end ClusterProbe
