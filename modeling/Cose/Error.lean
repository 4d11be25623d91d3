import Cose.Header.Label
import Cose.Text.Quoted

/-!
# Errors

Everything that can go wrong, as causes. The COSE errors say what is wrong with a message, a
header, a key or a signature; the others say that an argument has the wrong type or value, or that
a step beneath failed. `Error.kind` sorts errors the way callers tell them apart and
`Error.message` words them. Where the reason comes from a step beneath, the message has a
placeholder for it.

## Main definitions

* `State`: the states of a message
* `Shape`: the kinds of message
* `Error`: what went wrong
* `Kind`, `Error.kind`, `Kind.isA`: the classes of errors and how they include one another
* `Cause`, `Error.cause?`: what an error was raised from
* `Error.message`: the wording
-/

namespace Cose

/-- **The state of a message.** -/
inductive State where
  | unsigned
  | signing
  | signed
  | verifying
  | verified
  | verificationFailed
  deriving DecidableEq, Repr

/-- The name of a state. -/
def State.name : State → String
  | .unsigned => "Unsigned"
  | .signing => "Signing"
  | .signed => "Signed"
  | .verifying => "Verifying"
  | .verified => "Verified"
  | .verificationFailed => "VerificationFailed"

/-- The kinds of message: signed by several signers, signed by one, and authenticated with a
shared key. -/
inductive Shape where
  | sign
  | sign1
  | mac0
  deriving DecidableEq, Repr

/-- The name of a kind of message. -/
def Shape.name : Shape → String
  | .sign => "COSE_Sign"
  | .sign1 => "COSE_Sign1"
  | .mac0 => "COSE_Mac0"

/-- The tag around an encoded message. -/
def Shape.tag : Shape → Nat
  | .sign => 98
  | .sign1 => 18
  | .mac0 => 17

/-- Why an algorithm identifier is refused. -/
inductive LookupFault where
  | ambiguous (b : Bool)
  | unsupportedValue (n : Int)
  | unsupportedName (s : String)
  | unknownValue (n : Int)
  | unknownName (s : String)
  | unregistered (name : String)
  | notAnIdentifier (type : String)
  | noHash (name : String)
  | notForAuthentication (name : String)
  deriving DecidableEq, Repr

/-- How the algorithm of a key disagrees with the use it is put to. -/
inductive MismatchFault where
  | header (own named : String)
  | mac (name : String) (shape : Shape)
  | notMac (name : String)
  deriving DecidableEq, Repr

/-- What is wrong with a header. -/
inductive HeaderFault where
  | labelType (type : String)
  | algorithmType
  | criticalNotAllowed
  | criticalNotArray
  | criticalEmpty
  | criticalMissing (label : Label)
  | contentType
  | keyIdType
  | vectorType (label : Label)
  | bothVectors
  | shared (labels : List Label)
  | finalized
  deriving DecidableEq, Repr

/-- Why bytes are not a message of the expected kind. -/
inductive DecodeFault where
  | malformed (shape : Shape)
  | wrongTag (shape : Shape)
  | wrongLength (shape : Shape)
  | protectedNotBytes
  | protectedMalformed
  | protectedNotMap
  | unprotectedNotMap
  | duplicatedLabel (label : Label)
  | header (fault : HeaderFault)
  | payload
  | noEntries
  | entryShape
  | entrySignature
  | signature
  | tag
  deriving DecidableEq, Repr

/-- Why a key does not suit an algorithm. -/
inductive KeyFault where
  | type (alg type : String)
  | curve (alg key expected : String)
  | tooShort (alg : String) (bits : Nat)
  | empty
  deriving DecidableEq, Repr

/-- **What an error is raised from**: the verdict of a primitive on a signature or a tag, the
refusal of a primitive to sign, what the reader of encoded data raised, or an error whose wording
is taken over. -/
inductive Cause where
  | invalidSignature
  | primitive
  | reader
  | lookup (fault : LookupFault)
  | header (fault : HeaderFault)
  | key (fault : KeyFault)
  deriving DecidableEq, Repr

/-- Why signing failed. A key may have been refused already by what the signer is made from, and
then that is the cause. -/
inductive SigningFault where
  | primitive (alg : String)
  | noHash (alg : String)
  | key (fault : KeyFault) (cause : Option Cause := none)
  deriving DecidableEq, Repr

/-- Why no key was found for the entries of a message. -/
inductive ResolutionFault where
  | keyId (index : Nat) (kid : String)
  | count (keys entries : Nat)
  | absent (index : Nat)
  deriving DecidableEq, Repr

/-- **A refusal**: why a signature, or a tag, did not verify. The verdict of the primitive may be
named as the cause, or kept back. -/
inductive Refusal where
  | noSignature
  | noEntrySignature
  | length (alg : String) (actual expected : Nat)
  | mismatch (alg : String) (cause : Option Cause := some .invalidSignature)
  | authentication (cause : Option Cause := none)
  | raised (text : String)
  deriving DecidableEq, Repr

/-- **The outcome of checking one signature**: its place in the message, and the refusal if it did
not verify. -/
structure Outcome where
  index : Nat
  refusal : Option Refusal := none
  deriving DecidableEq, Repr

/-- Why an operation does not apply to a message as it is. -/
inductive StateFault where
  | addIn (state : State)
  | signIn (state : State)
  | alreadySigned
  | entryAlreadySigned
  | alreadyTagged
  | emptySignature
  | noTag
  deriving DecidableEq, Repr

/-- Checks of arguments that are no COSE errors. -/
inductive ArgumentFault where
  | fieldType (field type : String)
  | payloadType (type : String)
  | keysType (type : String)
  | signContext (context : String)
  | macContext (context : String)
  | signProtectedMissing
  | signProtectedUnused (context : String)
  | alreadyRegistered (name : String) (value : Int)
  | unsupportedCurve
  | unsupportedNamedCurve (name : String)
  | unsupportedKeyType
  | unprotectedEncoding
  | sizeUnknown
  | headerItem (item : String)
  deriving DecidableEq, Repr

/-- **The classes of errors.** -/
inductive Kind where
  | cose
  | unknownAlgorithm
  | algorithmMismatch
  | header
  | noSignerFound
  | noSignatures
  | signing
  | invalidKey
  | verification
  | authentication
  | decode
  | verificationFailed
  | lookup
  | type
  | value
  | notImplemented
  | assertion
  | argument
  | attribute
  | missingKey
  | overflow
  | asciiText
  | utf8Text
  | base64
  | json
  | noFile
  | unencodable
  | foreign (name : String)
  deriving DecidableEq, Repr

/-- The steps beneath that fail without a wording of their own here: an operation that an object
lacks, a missing key of a mapping, wrong types and values, sizes out of range, text that is not
ASCII, not UTF-8, not base64 or not JSON, a missing file, a value without an encoding, and whatever
else a library raises, by name. -/
inductive Fault where
  | attribute
  | missingKey
  | type
  | value
  | overflow
  | asciiText
  | utf8Text
  | base64
  | json
  | noFile
  | unencodable
  | foreign (name : String)
  deriving DecidableEq, Repr

/-- **What went wrong.** -/
inductive Error where
  | unknownAlgorithm (fault : LookupFault)
  | algorithmMismatch (fault : MismatchFault)
  | header (fault : HeaderFault)
  | decode (fault : DecodeFault)
  | noSignerFound (fault : ResolutionFault)
  | noSignatures
  | signing (fault : SigningFault)
  | invalidKey (fault : KeyFault)
  | verification (refusal : Refusal)
  | verificationFailed (outcomes : List Outcome)
  | state (fault : StateFault)
  | argument (fault : ArgumentFault)
  | fault (fault : Fault)
  /-- An error of a key that the caller wrote. -/
  | raised (kind : Kind) (text : String)
  deriving DecidableEq, Repr

namespace Kind

/-- The classes that include a class, from the COSE family and the two classes of lookup and value
errors that it shares with others; each class includes itself. -/
def isA (k ancestor : Kind) : Bool :=
  k == ancestor ||
    match ancestor, k with
    | .cose, .unknownAlgorithm | .cose, .algorithmMismatch | .cose, .header
    | .cose, .noSignerFound | .cose, .noSignatures | .cose, .signing | .cose, .invalidKey
    | .cose, .verification | .cose, .authentication | .cose, .decode
    | .cose, .verificationFailed => true
    | .verification, .authentication => true
    | .lookup, .noSignerFound | .lookup, .missingKey => true
    | .value, .unknownAlgorithm | .value, .asciiText | .value, .utf8Text | .value, .base64
    | .value, .json => true
    | .type, .unencodable => true
    | _, _ => false

end Kind

/-- The class of a refusal. -/
def Refusal.kind : Refusal → Kind
  | .authentication _ => .authentication
  | _ => .verification

/-- The class of a failed check of an argument. -/
def ArgumentFault.kind : ArgumentFault → Kind
  | .fieldType .. | .payloadType _ | .keysType _ => .type
  | .signContext _ | .macContext _ | .signProtectedMissing | .signProtectedUnused _
  | .alreadyRegistered .. => .value
  | .unsupportedCurve | .unsupportedNamedCurve _ | .unsupportedKeyType => .notImplemented
  | .unprotectedEncoding | .sizeUnknown => .assertion
  | .headerItem _ => .argument

/-- The class of a failure beneath. -/
def Fault.kind : Fault → Kind
  | .attribute => .attribute
  | .missingKey => .missingKey
  | .type => .type
  | .value => .value
  | .overflow => .overflow
  | .asciiText => .asciiText
  | .utf8Text => .utf8Text
  | .base64 => .base64
  | .json => .json
  | .noFile => .noFile
  | .unencodable => .unencodable
  | .foreign name => .foreign name

/-- The error that a refusal is raised from. -/
def Refusal.cause? : Refusal → Option Cause
  | .mismatch _ cause | .authentication cause => cause
  | _ => none

namespace Error

/-- The class of an error. -/
def kind : Error → Kind
  | .unknownAlgorithm _ => .unknownAlgorithm
  | .algorithmMismatch _ => .algorithmMismatch
  | .header _ => .header
  | .decode _ => .decode
  | .noSignerFound _ => .noSignerFound
  | .noSignatures => .noSignatures
  | .signing _ => .signing
  | .invalidKey _ => .invalidKey
  | .verification r => r.kind
  | .verificationFailed _ => .verificationFailed
  | .state _ => .cose
  | .argument f => f.kind
  | .fault f => f.kind
  | .raised k _ => k

/-- Whether an error belongs to the COSE family. -/
def isCose (e : Error) : Bool :=
  e.kind.isA .cose

/-- The refusal that an error is, if it is one. -/
def refusal? : Error → Option Refusal
  | .verification r => some r
  | .raised .verification text => some (.raised text)
  | .raised .authentication _ => some .authentication
  | _ => none

/-- **The error that an error is raised from**, if there is one. -/
def cause? : Error → Option Cause
  | .decode (.malformed _) | .decode .protectedMalformed => some .reader
  | .decode (.header f) => some (.header f)
  | .signing (.primitive _) => some .primitive
  | .signing (.noHash alg) => some (.lookup (.noHash alg))
  | .signing (.key _ cause) => cause
  | .verification r => r.cause?
  | _ => none

end Error

/-! ## Wording -/

/-- The placeholder for a reason given by a step beneath. -/
def cause : String := "<cause>"

def LookupFault.message : LookupFault → String
  | .ambiguous b =>
    "Ambiguous algorithm identifier " ++ if b then "True" else "False"
  | .unsupportedValue n => s!"Algorithm {n} is not supported"
  | .unsupportedName s => s!"Algorithm {Text.quoteText s} is not supported"
  | .unknownValue n => s!"Unknown algorithm {n}"
  | .unknownName s => s!"Unknown algorithm {Text.quoteText s}"
  | .unregistered name => s!"Algorithm {name} is not registered"
  | .notAnIdentifier type => s!"Algorithm identifier must be int or str, got {type}"
  | .noHash name => s!"{name} has no associated hash function"
  | .notForAuthentication name => s!"{name} is not supported for authentication"

def MismatchFault.message : MismatchFault → String
  | .header own named => s!"key {own}: header {named}"
  | .mac name shape =>
    s!"{name} is a MAC algorithm and cannot be used in a {shape.name} message"
  | .notMac name =>
    s!"{name} is not a MAC algorithm and cannot be used in a {Shape.mac0.name} message"

def HeaderFault.message : HeaderFault → String
  | .labelType type => s!"header label: require int / tstr type, got {type}"
  | .algorithmType => "header parameter: alg: require int / tstr type"
  | .criticalNotAllowed => "header parameter: crit: not allowed"
  | .criticalNotArray => "header parameter: crit: require array type"
  | .criticalEmpty => "header parameter: crit: require at least one label"
  | .criticalMissing label =>
    s!"header parameter: crit: missing critical header {label.spelling}"
  | .contentType =>
    "header parameter: content type: require uint or tstr of form type/subtype"
  | .keyIdType => "header parameter: kid: require bstr type"
  | .vectorType label => s!"header parameter: {label.name}: require bstr type"
  | .bothVectors =>
    "header parameter: IV and Partial IV: parameters must not both be present"
  | .shared labels =>
    "header label: present in both protected and unprotected buckets: " ++
      ", ".intercalate ((labels.map Label.name).mergeSort fun a b => decide (a ≤ b))
  | .finalized => "protected header is finalized and cannot be modified"

def DecodeFault.message : DecodeFault → String
  | .malformed shape => s!"cbor: invalid {shape.name} object: {cause}"
  | .wrongTag shape => s!"cbor: invalid {shape.name}_Tagged object"
  | .wrongLength shape => s!"cbor: {shape.name} must be an array of length 4"
  | .protectedNotBytes => "protected header: require bstr type"
  | .protectedMalformed => s!"protected header: {cause}"
  | .protectedNotMap => "protected header: require map type"
  | .unprotectedNotMap => "unprotected header: require map type"
  | .duplicatedLabel label => s!"header label: duplicated label: {label.spelling}"
  | .header fault => fault.message
  | .payload => "cbor: payload must be bstr or nil"
  | .noEntries => "cbor: COSE_Sign requires at least one COSE_Signature"
  | .entryShape => "cbor: COSE_Signature must be an array of length 3"
  | .entrySignature => "cbor: COSE_Signature signature must be bstr"
  | .signature => "cbor: COSE_Sign1 signature must be bstr"
  | .tag => "cbor: COSE_Mac0 tag must be a non-empty bstr"

def KeyFault.message : KeyFault → String
  | .type alg got => s!"{alg}: key of type {got} does not match algorithm"
  | .curve alg key expected => s!"{alg}: key curve {key} does not match {expected}"
  | .tooShort alg bits => s!"{alg}: RSA key must be at least {bits} bits long"
  | .empty => "empty key"

def SigningFault.message : SigningFault → String
  | .primitive alg => s!"{alg}: {cause}"
  | .noHash alg => s!"{alg}: {(LookupFault.noHash alg).message}"
  | .key fault _ => fault.message

def ResolutionFault.message : ResolutionFault → String
  | .keyId index kid => s!"no key found for signature {index} with kid {kid}"
  | .count keys entries => s!"{keys} keys for {entries} signatures"
  | .absent index => s!"no key found for signature {index}"

def Refusal.message : Refusal → String
  | .noSignature => "Sign1Message has no signature to verify"
  | .noEntrySignature => "Signature has no signature bytes to verify"
  | .length alg actual expected =>
    s!"{alg}: invalid signature length {actual}, expected {expected}"
  | .mismatch alg _ => s!"{alg}: verification error"
  | .authentication _ => "authentication error"
  | .raised text => text

def StateFault.message : StateFault → String
  | .addIn state => s!"Cannot add a signature to a message in state {state.name}"
  | .signIn state => s!"Cannot sign a message in state {state.name}"
  | .alreadySigned => "Sign1Message already has signature bytes"
  | .entryAlreadySigned => "Signature already has signature bytes"
  | .alreadyTagged => "Mac0Message already has a tag"
  | .emptySignature => "Cannot attach an empty signature"
  | .noTag => "Mac0Message has no tag"

def ArgumentFault.message : ArgumentFault → String
  | .fieldType field type => s!"{field} must be bytes, got {type}"
  | .payloadType type => s!"payload must be bytes or None, got {type}"
  | .keysType type =>
    s!"Expected a resolver, a mapping or a sequence of keys, got {type}"
  | .signContext context => s!"Invalid Sig_structure context {Text.quoteText context}"
  | .macContext context => s!"Invalid MAC_structure context {Text.quoteText context}"
  | .signProtectedMissing => "sign_protected is required for the Signature context"
  | .signProtectedUnused context => s!"sign_protected is not used for the {context} context"
  | .alreadyRegistered name value => s!"Algorithm {name} ({value}) is already registered"
  | .unsupportedCurve => "unsupported curve"
  | .unsupportedNamedCurve name => s!"unsupported curve {name}"
  | .unsupportedKeyType => "unsupported key type"
  | .unprotectedEncoding => "Only protected headers are serialized to a bstr"
  | .sizeUnknown => ""
  | .headerItem item => s!"Expected KEY=VALUE, got {Text.quoteText item}"

/-- The outcomes that are refusals. -/
def Outcome.failures (outcomes : List Outcome) : List Outcome :=
  outcomes.filter fun o => o.refusal.isSome

/-- The wording for a message of which some signatures did not verify. -/
def Outcome.message (outcomes : List Outcome) : String :=
  let failed := failures outcomes
  let places := ", ".intercalate (failed.map fun o => toString o.index)
  s!"{failed.length} of {outcomes.length} signatures failed verification: [{places}]"

/-- The wording of an error; a failure beneath has none. -/
def Error.message : Error → String
  | .unknownAlgorithm f => f.message
  | .algorithmMismatch f => f.message
  | .header f => f.message
  | .decode f => f.message
  | .noSignerFound f => f.message
  | .noSignatures => "no signatures attached"
  | .signing f => f.message
  | .invalidKey f => f.message
  | .verification r => r.message
  | .verificationFailed outcomes => Outcome.message outcomes
  | .state f => f.message
  | .argument f => f.message
  | .fault _ => cause
  | .raised _ text => text

end Cose
