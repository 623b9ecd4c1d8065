import Allotment.Backoff
import Allotment.Notice
import Allotment.Text.Numeral
/-!
# Settings

What an allocator is set up with, which settings are accepted, and how the
environment overrides them.
-/
namespace Allotment

open Text

/-- What to log and how. -/
structure Logging where
  level : String
  json : Bool
deriving DecidableEq, Repr

/-- The settings of an allocator. -/
structure Settings where
  /-- The id under which the allocator owns services. -/
  allocatorId : String
  /-- Where the pool document is kept. -/
  document : Key
  backoff : Backoff
  logging : Logging

/-- Why settings are refused. -/
inductive SettingsFault where
  /-- The text is no settings file. -/
  | unreadable
  | blankId
  /-- The id holds a character that separates the parts of a selector. -/
  | separatorInId (id : String)
  | documentUnnamed
  | noAttempts
  | jitterOutOfRange
deriving DecidableEq, Repr

/-- The fault in words. -/
def SettingsFault.message : SettingsFault → String
  | unreadable => "failed to parse configuration"
  | blankId => "invalid configuration: allocator_id cannot be empty"
  | separatorInId id =>
    "invalid configuration: allocator_id " ++ quoted id ++ " cannot contain '=' or ','"
  | documentUnnamed => "invalid configuration: configuration document name and namespace are required"
  | noAttempts => "invalid configuration: retry.max_attempts must be at least 1"
  | jitterOutOfRange => "invalid configuration: retry.jitter must be between 0 and 1"

namespace Settings

def standard : Settings where
  allocatorId := "vip-ipam"
  document := ⟨"kube-system", "vip-ipam-config"⟩
  backoff := .standard
  logging := ⟨"info", false⟩

/-- The first reason to refuse the settings. -/
def fault? (s : Settings) : Option SettingsFault :=
  if (trim s.allocatorId.toList).isEmpty then some .blankId
  else if s.allocatorId.toList.any fun c => c == '=' || c == ',' then some (.separatorInId s.allocatorId)
  else if s.document.name.isEmpty || s.document.ns.isEmpty then some .documentUnnamed
  else if s.backoff.attempts == 0 then some .noAttempts
  else if !(0 ≤ s.backoff.jitter && s.backoff.jitter ≤ 1) then some .jitterOutOfRange
  else none

/-- The settings, if nothing speaks against them. -/
def validated (s : Settings) : Except SettingsFault Settings :=
  match s.fault? with
  | some fault => .error fault
  | none => .ok s

/-- The selector that the services owned by the allocator meet. -/
def ownershipSelector (s : Settings) : String := Service.ownerLabel ++ "=" ++ s.allocatorId

/-- The values that switch a setting on. -/
def isAffirmative (value : String) : Bool := value == "1" || value == "true" || value == "yes"

/-- The number of attempts that the environment asks for; `none` if its text is no number. -/
def attempts? (value : String) : Option Nat := count? UInt32.size value

/-- The settings with those of the environment in place of their own. -/
def overriddenBy (s : Settings) (env : String → Option String) : Settings where
  allocatorId := (env "VIP_IPAM_ALLOCATOR_ID").getD s.allocatorId
  document :=
    ⟨(env "VIP_IPAM_CONFIG_NAMESPACE").getD s.document.ns,
      (env "VIP_IPAM_CONFIG_NAME").getD s.document.name⟩
  backoff :=
    { s.backoff with
      attempts := ((env "VIP_IPAM_RETRY_ATTEMPTS").bind attempts?).getD s.backoff.attempts }
  logging :=
    ⟨(env "VIP_IPAM_LOG_LEVEL").getD s.logging.level,
      ((env "VIP_IPAM_JSON_LOGS").map isAffirmative).getD s.logging.json⟩

/-- What overriding reports: a number of attempts that is none. -/
def overrideNotices (env : String → Option String) : List Notice :=
  match env "VIP_IPAM_RETRY_ATTEMPTS" with
  | none => []
  | some value => if (attempts? value).isSome then [] else [.attemptsUnreadable value]

/-- The standard settings under an environment. -/
def ofEnvironment (env : String → Option String) : Except SettingsFault Settings :=
  (standard.overriddenBy env).validated

/-- What reading the settings from an environment reports. -/
def environmentNotices (env : String → Option String) : List Notice :=
  overrideNotices env ++
    match ofEnvironment env with
    | .ok s => [.settingsLoaded s.allocatorId s.document]
    | .error _ => []

end Settings

end Allotment
