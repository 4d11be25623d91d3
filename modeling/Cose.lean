import Cose.CommandLine.Command
import Cose.Credential.Ephemeral
import Cose.Main
import Cose.Message.Interchange
import Cose.Workspace.Store
import Cose.Proofs.Cbor.Head
import Cose.Proofs.Structure.Binding
import Cose.Proofs.Header.Labels
import Cose.Proofs.Message.Signing
import Cose.Proofs.Cbor.Plain
import Cose.Proofs.Cbor.Reading
import Cose.Proofs.Cbor.Given
import Cose.Proofs.Cbor.Rereading
import Cose.Proofs.Header.Reread
import Cose.Proofs.Header.WellFormed
import Cose.Proofs.Message.Envelope
import Cose.Proofs.Message.RoundTrip
import Cose.Proofs.Message.Wire
import Cose.Proofs.Message.Prepared
import Cose.Proofs.Message.Completeness
import Cose.Proofs.Cbor.Written
import Cose.Proofs.Header.Duplicates
import Cose.Proofs.Message.Verifying
import Cose.Proofs.Header.Change
import Cose.Proofs.Message.Duplicates
import Cose.Proofs.Message.History
import Cose.Proofs.Message.Frozen
import Cose.Proofs.Credential.Signing
import Cose.Proofs.Message.States
import Cose.Proofs.Message.Retention
import Cose.Proofs.Header.Legible
import Cose.Proofs.Header.Agreement
import Cose.Proofs.Message.Agreement
import Cose.Proofs.Message.Unprotected
import Cose.Proofs.Credential.Verifying
import Cose.Proofs.Header.Received
import Cose.Proofs.Message.Validation
import Cose.Proofs.Text.Base64
import Cose.Proofs.Message.Attaching
import Cose.Proofs.Header.Preset
import Cose.Proofs.Message.Preset
import Cose.Proofs.Header.Certified
import Cose.Proofs.Message.Offline
import Cose.Proofs.Header.Rules
import Cose.Proofs.Message.Gates
import Cose.Proofs.Message.Acceptance
import Cose.Proofs.Cbor.Canonical
import Cose.Proofs.Header.Canonical
import Cose.Proofs.Message.Entrywise
import Cose.Proofs.Credential.RawForm
import Cose.Proofs.Header.FiniteMap
import Cose.Proofs.Message.Authentication
import Cose.Proofs.Cbor.ComingBack
import Cose.Proofs.Header.Reported
import Cose.Proofs.Message.Supply
import Cose.Proofs.Message.Asking
import Cose.Proofs.Value.Storing
import Cose.Proofs.Header.Repeated
import Cose.Proofs.CommandLine.Parameters
import Cose.Proofs.Message.Online
import Cose.Proofs.Registry
import Cose.Proofs.Credential.Factories
import Cose.Proofs.CommandLine.Verification
import Cose.Proofs.Credential.Refusals
import Cose.Proofs.Message.Logging
import Cose.Proofs.Message.Interchange
import Cose.Proofs.Workspace.Store
import Cose.Proofs.Workspace.Writing
import Cose.Proofs.Workspace.Signing
