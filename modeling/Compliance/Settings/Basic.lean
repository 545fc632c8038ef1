import Compliance.Form.Field
import Compliance.Text.LetterCase

/-!
# Settings

Settings (`Settings`) are given by name or taken from the environment; a setting that is given wins.
The log level is written in capitals whatever the case it was given in.
-/
namespace Compliance

open Checked

inductive LogFormat where
  | json
  | console
  deriving DecidableEq

instance : Vocabulary LogFormat where
  name := "LogFormat"
  members := [.json, .console]
  word
    | .json => "json"
    | .console => "console"

inductive NotifierKind where
  | log
  | webhook
  deriving DecidableEq

instance : Vocabulary NotifierKind where
  name := "NotifierKind"
  members := [.log, .webhook]
  word
    | .log => "log"
    | .webhook => "webhook"

structure Settings where
  organizationId : String
  organizationName : String
  actor : String
  host : String
  port : Int
  logLevel : String
  logFormat : LogFormat
  maxStepsPerRun : Nat
  historyLimit : Nat
  scanTimeout : Option Float
  playbooksPath : Option String
  notifier : NotifierKind
  slackUrl : Option String
  emailUrl : Option String
  jiraUrl : Option String
  pagerdutyUrl : Option String
  genericUrl : Option String
  notifyTimeout : Float

namespace Settings

/-- The levels of logging. -/
def logLevels : List String := ["DEBUG", "INFO", "WARNING", "ERROR", "CRITICAL"]

/-- A level of logging in any case (`validate_log_level`). -/
def readLogLevel (v : Value) : Checked String :=
  (Field.text v).andThen fun s =>
    let level := String.ofList (s.toList.map Text.asciiUpper)
    if logLevels.contains level then .accepted level else complain .value

/-- A number of at least one. -/
def readCount (v : Value) : Checked Nat :=
  (Field.such (1 ≤ ·) .greaterThanEqual Field.int v).map Int.toNat

/-- Reads settings; what is not there has its default, and what is unknown is passed over. -/
def read (es : Entries) : Checked Settings :=
  let optionalText := fieldOr none (Field.optional Field.text)
  Settings.mk
    <$> fieldOr "default" Field.text "organization_id" es
    <*> fieldOr "Default Organization" Field.text "organization_name" es
    <*> fieldOr "ComplianceAgent" Field.text "actor" es
    <*> fieldOr "0.0.0.0" Field.text "host" es
    <*> fieldOr 8090 Field.int "port" es
    <*> fieldOr "INFO" readLogLevel "log_level" es
    <*> fieldOr .json (Field.member LogFormat) "log_format" es
    <*> fieldOr 100 readCount "max_steps_per_run" es
    <*> fieldOr 10 readCount "execution_history_limit" es
    <*> fieldOr none (Field.optional Field.float) "scan_timeout_seconds" es
    <*> optionalText "playbooks_path" es
    <*> fieldOr .log (Field.member NotifierKind) "notifier" es
    <*> optionalText "slack_webhook_url" es
    <*> optionalText "email_webhook_url" es
    <*> optionalText "jira_webhook_url" es
    <*> optionalText "pagerduty_webhook_url" es
    <*> optionalText "generic_webhook_url" es
    <*> fieldOr 10.0 Field.float "notify_timeout" es

/-- The name of a setting, which may be given in any case. -/
def settingName (name : String) : String := String.ofList (name.toList.map Text.asciiLower)

/-- What comes before the name of a setting in the environment. -/
def environmentMark : List Char := "comply_".toList

/-- The settings that an environment holds. -/
def ofEnvironment (env : List (String × String)) : List (String × Value) :=
  env.filterMap fun e =>
    let name := (settingName e.1).toList
    if environmentMark.isPrefixOf name then
      some (String.ofList (name.drop environmentMark.length), .text e.2)
    else none

/-- Reads settings that are given, over those of an environment. -/
def readOver (env : List (String × String)) (given : List (String × Value)) : Checked Settings :=
  let all := ofEnvironment env ++ given.map fun e => (settingName e.1, e.2)
  read (Entries.ofList (all.map fun e => (.text e.1, e.2)))

/-- The addresses to post notifications to, for the channels that have one (`webhook_urls`). -/
def webhookUrls (s : Settings) : List (String × String) :=
  let all := [("slack", s.slackUrl), ("email", s.emailUrl), ("jira", s.jiraUrl),
    ("pagerduty", s.pagerdutyUrl), ("webhook", s.genericUrl)]
  all.filterMap fun (channel, url) =>
    match url with
    | some url => if url = "" then none else some (channel, url)
    | none => none

def toValue (s : Settings) : Value :=
  .record [("organization_id", .text s.organizationId),
    ("organization_name", .text s.organizationName), ("actor", .text s.actor),
    ("host", .text s.host), ("port", .int s.port), ("log_level", .text s.logLevel),
    ("log_format", .member s.logFormat), ("max_steps_per_run", .int s.maxStepsPerRun),
    ("execution_history_limit", .int s.historyLimit),
    ("scan_timeout_seconds", match s.scanTimeout with | some x => .float x | none => .null),
    ("playbooks_path", .text? s.playbooksPath), ("notifier", .member s.notifier),
    ("slack_webhook_url", .text? s.slackUrl), ("email_webhook_url", .text? s.emailUrl),
    ("jira_webhook_url", .text? s.jiraUrl), ("pagerduty_webhook_url", .text? s.pagerdutyUrl),
    ("generic_webhook_url", .text? s.genericUrl), ("notify_timeout", .float s.notifyTimeout)]

/-- The name of the backend that notifications go through (`create_notifier`). -/
def notifierName (s : Settings) : String :=
  match s.notifier with
  | .log => "LogNotifier"
  | .webhook => "WebhookNotifier"

end Settings
end Compliance
