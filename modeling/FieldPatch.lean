import FieldPatch.Desk.Batch
import FieldPatch.Json.Object.Lemmas
import FieldPatch.Json.Parser
import FieldPatch.Line
import FieldPatch.Main
import FieldPatch.Proofs.Channel.Line
import FieldPatch.Proofs.Config.Message
import FieldPatch.Proofs.Decode.Layout
import FieldPatch.Proofs.Desk.Confinement
import FieldPatch.Proofs.Desk.Interference
import FieldPatch.Proofs.Desk.Offers
import FieldPatch.Proofs.Desk.Patch
import FieldPatch.Proofs.Desk.Responses
import FieldPatch.Proofs.Exchange.Line
import FieldPatch.Proofs.Executor.Titles
import FieldPatch.Proofs.Field.Words
import FieldPatch.Proofs.Payload.Entries
import FieldPatch.Proofs.Record.Decoded
import FieldPatch.Proofs.Record.Lens
import FieldPatch.Proofs.Registry.Fetches
import FieldPatch.Proofs.Registry.Registration
import FieldPatch.Proofs.Server.Atomicity
import FieldPatch.Proofs.Server.Commutation
import FieldPatch.Proofs.Server.Identifiers
import FieldPatch.Proofs.Server.LastWrite
import FieldPatch.Proofs.Server.Restoration
import FieldPatch.Proofs.Server.Rules
import FieldPatch.Proofs.Server.Singles
import FieldPatch.Proofs.Stub.Script
import FieldPatch.Stub.Accessor
import FieldPatch.Stub.Endpoint
