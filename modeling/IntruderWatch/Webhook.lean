import IntruderWatch.AlertService
import IntruderWatch.Library.PyOps

/-!
# Alertmanager webhook

The handler of `/webhook`, which posts every alert of a batch to ntfy and answers with one status
for all of them. The outcome of `request.json` and the query are part of the request; the POSTs
and the metric are calls. Alertmanager sends the batch again after every 5xx.
-/

namespace IntruderWatch
open Py Interaction

/-! ### Requests and calls -/

structure WebhookRequest where
  /-- `request.json`, which raises for a body or a content type that is no JSON. -/
  json : Except Exn Json
  /-- The query parameter `topic`. -/
  topic : Option Str

/-- A dictionary with one key, and the status. -/
structure WebhookResponse where
  key : Str
  value : Str
  status : ℕ

inductive WebhookCall
  | post (url : Str) (data : Str) (headers : List (Str × Str))
  | notificationsSent (destination : Str)

/-- The POST answers with a status or raises. -/
def WebhookAns : WebhookCall → Type
  | .post _ _ _ => Except Exn ℕ
  | .notificationsSent _ => Unit

abbrev WebhookProc := Proc Unit WebhookCall WebhookAns Exn

abbrev WebhookTrace := Trace WebhookCall WebhookAns

/-- The keys of `TOPIC_MAP`, which are the topics as well. -/
def topicMap : List (Str × Str) :=
  [(lit "intruder-alerts", lit "intruder-alerts"), (lit "infra-alerts", lit "infra-alerts"),
    (lit "hardware-alerts", lit "hardware-alerts")]

/-- `d.get(key)` of a table of texts. -/
def lookUp (key : Str) (table : List (Str × Str)) : Option Str :=
  (table.find? (fun entry => entry.1 = key)).map Prod.snd

def WebhookRequest.safeTopic (request : WebhookRequest) : Option Str :=
  lookUp (request.topic.getD (lit "infra-alerts")) topicMap

/-! ### One alert -/

/-- What is posted for an alert. -/
structure Notification where
  message : Str
  title : Str
  priority : Str
  tag : Str

def emptyDict : Json := .obj []

namespace AlertEnv

/-- `resolution_messages`, built before the lookup, for the values of `job` and `name`. -/
def resolutionMessages (job name : Str) : List (Str × Str) :=
  [(lit "GPUTempHigh", lit "GPU Temperature stabilized (< 75°C)"),
    (lit "GPUPowerHigh", lit "GPU Power usage normalized"),
    (lit "ServiceDown", lit "Service " ++ job ++ lit " is back online"),
    (lit "RabbitMQBacklog", lit "Queue backlog has been cleared"),
    (lit "HostHighCPU", lit "CPU usage has normalized"),
    (lit "HostLowDiskSpace", lit "Disk space issue resolved"),
    (lit "ContainerCPUThrottling", lit "Container " ++ name ++ lit " CPU throttling resolved")]

variable (env : AlertEnv)

/-- `resolution_messages.get(alertname, default)`; only a string is equal to a key. -/
def resolutionDetail (labels alertname : Json) : Except Exn Str := do
  let job ← env.text (← labels.getOr (lit "job") (.str (lit "unknown")))
  let name ← env.text (← labels.getOr (lit "name") (.str (lit "unknown")))
  let cleared := (← env.text alertname) ++ lit " condition cleared"
  let _ ← alertname.toKey
  match alertname with
  | .str s => .ok ((lookUp s (resolutionMessages job name)).getD cleared)
  | _ => .ok cleared

/-- The loop body up to the POST. -/
def formatAlert (alert : Json) : Except Exn Notification := do
  let annotations ← alert.getOr (lit "annotations") emptyDict
  let summary ← annotations.getOr (lit "summary") (.str (lit "No summary provided"))
  let labels ← alert.getOr (lit "labels") emptyDict
  let alertname ← labels.getOr (lit "alertname") (.str (lit "Unknown Alert"))
  let severity ← labels.getOr (lit "severity") (.str (lit "warning"))
  let status ← alert.getOr (lit "status") (.str (lit "firing"))
  if status.equalsText (lit "firing") then do
    let message := lit "🚨 " ++ (← env.text summary)
    .ok {
      message := message
      title := (← env.text alertname).take 100
      priority := if severity.equalsText (lit "critical") then lit "5" else lit "3"
      tag := lit "warning" }
  else do
    let message := lit "✅ RESOLVED: " ++ (← env.resolutionDetail labels alertname)
    .ok {
      message := message
      title := (← env.text alertname).take 100
      priority := lit "1"
      tag := lit "white_check_mark" }

/-! ### The handler -/

def webhookPost (safeTopic : Str) (n : Notification) : WebhookProc (Except Exn ℕ) :=
  perform (WebhookCall.post (env.ntfyInternalUrl ++ slash :: safeTopic) n.message
    [(lit "Title", n.title), (lit "Priority", n.priority), (lit "Tags", n.tag)])

/-- The loop body. -/
def notify (safeTopic : Str) (alert : Json) : WebhookProc Unit := do
  let n ← evaluate (env.formatAlert alert)
  let reply ← env.webhookPost safeTopic n
  let status ← evaluate reply
  evaluate (raiseForStatus status)
  perform (WebhookCall.notificationsSent safeTopic)

def notifyAll (safeTopic : Str) : List Json → WebhookProc Unit
  | [] => pure ()
  | alert :: rest => do
    env.notify safeTopic alert
    notifyAll safeTopic rest

/-- The body of the `try` statement. -/
def handleBatch (request : WebhookRequest) : WebhookProc WebhookResponse := do
  let data ← evaluate request.json
  if data.truthy then
    match request.safeTopic with
    | none => pure ⟨lit "error", lit "Invalid topic", 403⟩
    | some safeTopic =>
      let alerts ← evaluate (data.getOr (lit "alerts") (.arr []))
      let batch ← evaluate alerts.iterate
      env.notifyAll safeTopic batch
      pure ⟨lit "status", lit "ok", 200⟩
  else pure ⟨lit "error", lit "No JSON data", 400⟩

def webhook (request : WebhookRequest) : WebhookProc WebhookResponse :=
  tryCatch (env.handleBatch request)
    (fun _ => pure ⟨lit "error", lit "Internal server error", 500⟩)

end AlertEnv

/-! ### Retries -/

/-- One attempt of Alertmanager: the calls of the handler and its response. -/
structure Attempt where
  calls : WebhookTrace
  response : WebhookResponse

/-- The batch is sent as long as it is due, and stays due after a 5xx. -/
inductive ResendStep (env : AlertEnv) (request : WebhookRequest) : Bool → Attempt → Bool → Prop
  | attempt {a : Attempt} : Exec (env.webhook request) () a.calls (.ok a.response) () →
      ResendStep env request true a (decide (500 ≤ a.response.status))

abbrev ResendRun (env : AlertEnv) (request : WebhookRequest) :=
  Transition.Run (ResendStep env request) true

end IntruderWatch
