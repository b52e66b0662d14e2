import IntruderWatch.Library.Interaction
import IntruderWatch.Library.PyInt

/-!
# Request metrics of the viewer

The middleware around every request of the viewer service, with the label under which it records
the request. The handler and the two metrics are calls; the observed durations are left out.
-/

namespace IntruderWatch
open Py Interaction

inductive MonitorCall
  /-- The handler behind the middleware. -/
  | callNext
  | httpRequestsTotal (method endpoint statusCode : Str)
  | requestLatency (endpoint : Str)

/-- The handler answers with a status or raises. -/
def MonitorAns : MonitorCall → Type
  | .callNext => Except Exn ℕ
  | _ => Unit

abbrev MonitorProc := Proc Unit MonitorCall MonitorAns Exn

abbrev MonitorTrace := Trace MonitorCall MonitorAns

/-! ### Labels -/

def imageTemplate : Str := lit "/images/\x7bcamera\x7d/\x7bdate\x7d/\x7bfilename\x7d"

def datesTemplate : Str := lit "/api/cameras/\x7bcamera\x7d/dates"

def imagesTemplate : Str := lit "/api/cameras/\x7bcamera\x7d/dates/\x7bdate\x7d/images"

/-- The classification of `request.url.path`. -/
def endpointLabel (path : Str) : Str :=
  if (lit "/images/").isPrefixOf path then imageTemplate
  else if (lit "/api/cameras/").isPrefixOf path then
    let parts := split slash path
    if parts.length = 4 then datesTemplate
    else if parts.length = 6 then imagesTemplate
    else path
  else path

/-- The paths of the routes. -/
def routes : List Str :=
  [lit "/login", lit "/login-bg.jpg", lit "/api/login", lit "/logout", lit "/api/logout", lit "/",
    lit "/api/cameras", datesTemplate, imagesTemplate, imageTemplate]

/-! ### The middleware -/

def callNext : MonitorProc (Except Exn ℕ) := perform MonitorCall.callNext

def monitorRequests (method path : Str) : MonitorProc ℕ := do
  let statusCode ← evaluate (← callNext)
  let endpoint := endpointLabel path
  perform (MonitorCall.httpRequestsTotal method endpoint (decimal statusCode))
  perform (MonitorCall.requestLatency endpoint)
  return statusCode

/-- The endpoint labels of the metrics. -/
def recordedEndpoints (t : MonitorTrace) : List Str :=
  t.filterMap (fun c => match c.1 with
    | .callNext => none
    | .httpRequestsTotal _ endpoint _ | .requestLatency endpoint => some endpoint)

end IntruderWatch
