import SignedHttp.Signer

/-!
# Settings

The six settings of a signer. All are texts at first, except that a secret and an API key can
be missing; once settings have been changed by hand, each can have any value.

Key definitions: `Setting`, `Settings`, `Settings.hasSecret`, `Signer.ofSettings`.
Key theorems: `Signer.ofSettings_eq_error_iff`.
-/

namespace SignedHttp

inductive Setting where
  | secret
  | base
  | apiKey
  | timestampHeader
  | signHeader
  | logLevel
deriving DecidableEq, Repr

namespace Setting

def all : List Setting :=
  [.secret, .base, .apiKey, .timestampHeader, .signHeader, .logLevel]

def name : Setting → String
  | .secret => "secret"
  | .base => "prefix"
  | .apiKey => "api_key"
  | .timestampHeader => "timestamp_header"
  | .signHeader => "sign_header"
  | .logLevel => "log_level"

def ofName? (name : String) : Option Setting :=
  all.find? (·.name = name)

def mayBeNull : Setting → Bool
  | .secret => true
  | .apiKey => true
  | _ => false

def default : Setting → Json
  | .secret => .null
  | .base => .string "http://127.0.0.1:8080"
  | .apiKey => .null
  | .timestampHeader => .string defaultTimestampHeader
  | .signHeader => .string defaultSignHeader
  | .logLevel => .string "INFO"

end Setting

structure Settings where
  secret : Json
  base : Json
  apiKey : Json
  timestampHeader : Json
  signHeader : Json
  logLevel : Json
deriving Repr

namespace Settings

def ofFunction (value : Setting → Json) : Settings where
  secret := value .secret
  base := value .base
  apiKey := value .apiKey
  timestampHeader := value .timestampHeader
  signHeader := value .signHeader
  logLevel := value .logLevel

def get (settings : Settings) : Setting → Json
  | .secret => settings.secret
  | .base => settings.base
  | .apiKey => settings.apiKey
  | .timestampHeader => settings.timestampHeader
  | .signHeader => settings.signHeader
  | .logLevel => settings.logLevel

def set (settings : Settings) (setting : Setting) (value : Json) : Settings :=
  match setting with
  | .secret => { settings with secret := value }
  | .base => { settings with base := value }
  | .apiKey => { settings with apiKey := value }
  | .timestampHeader => { settings with timestampHeader := value }
  | .signHeader => { settings with signHeader := value }
  | .logLevel => { settings with logLevel := value }

/-- Whether there is a secret and it is not empty. A secret must be something with a length. -/
def hasSecret (settings : Settings) : Except Fault Bool :=
  match settings.secret with
  | .number n => .error (.unsized (Json.number n).kind)
  | .bool b => .error (.unsized (Json.bool b).kind)
  | secret => .ok !secret.isEmpty

theorem hasSecret_of_codes? {settings : Settings} {s : List Nat}
    (h : settings.secret.codes? = some s) (hne : s.isEmpty = false) :
    settings.hasSecret = .ok true := by
  rw [hasSecret]
  cases hsecret : settings.secret with
  | string t =>
    rw [hsecret] at h
    rw [← Option.some.inj h, Text.points, List.isEmpty_map] at hne
    exact congrArg (fun isEmpty => Except.ok !isEmpty) hne
  | points t =>
    rw [hsecret] at h
    rw [← Option.some.inj h] at hne
    exact congrArg (fun isEmpty => Except.ok !isEmpty) hne
  | _ =>
    rw [hsecret] at h
    cases h

end Settings

def Signer.ofSettings (settings : Settings) : Except Fault Signer :=
  Signer.make (.json settings.secret) (.json settings.base) (.json settings.timestampHeader)
    (.json settings.signHeader)

/-- Settings whose secret can be told to be there or not describe a signer exactly when it
is there. -/
theorem Signer.ofSettings_eq_error_iff (settings : Settings) (isThere : Bool)
    (h : settings.hasSecret = .ok isThere) :
    Signer.ofSettings settings = .error .missingSecret ↔ isThere = false := by
  have key : Signer.ofSettings settings = .error .missingSecret ↔
      settings.secret.isEmpty = true := by
    by_cases h : settings.secret.isEmpty = true <;> simp [ofSettings, make, Payload.isEmpty, h]
  rw [key]
  unfold Settings.hasSecret at h
  split at h
  · simp at h
  · simp at h
  · cases h
    simp

end SignedHttp
