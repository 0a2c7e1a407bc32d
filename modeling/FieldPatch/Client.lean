import FieldPatch.Payload
import FieldPatch.Server.Request

/-!
# Clients

How the requests of callers are made of what they want. Each of these is a dialogue with one server.

* `Client.ask`: a request as it is;
* `Client.patch`: the patch endpoint of a server, which answers with the JSON of the record;
* `Client.fetch`: the accessor of one of its lists of choices.
-/

namespace FieldPatch
namespace Client

variable {ι ρ : Type}

def ask (request : Request ι ρ) : Dialogue (Request ι ρ) (Except ServerError request.Reply) :=
  Dialogue.query request

variable [Entity ι ρ]

variable (ρ) in
/-- A request leaves for the server. -/
def sending (fields : List (String × Log.Value)) : Log.Entry :=
  ⟨.debug, .client, "Sending request",
    ("resource", .bare (Entity.kind ρ).name) :: fields⟩

def patch (payload : Payload) : Dialogue (Request ι ρ) (Except RemoteError Json) :=
  .inSpan ⟨"patch", .client, []⟩ do
    .log (sending ρ [])
    match ← ask (.patch payload.toObject) with
    | .error e => return .error (.ofServer e)
    | .ok record =>
      match Entity.encode record with
      | .ok json => return .ok json
      | .error why => return .error (.malformed why)

def fetch (accessor : String) : Dialogue (Request ι ρ) (Except RemoteError (List Choice)) :=
  .inSpan ⟨"fetch", .client, []⟩ do
    .log (sending ρ [("accessor", .bare accessor)])
    match ← ask (.choices accessor) with
    | .error e => return .error (.ofServer e)
    | .ok list => return .ok list

end Client
end FieldPatch
