import MipsGloss.Report.Rendering

namespace MipsGloss

/-! A profile holds the settings of the program. Settings are texts, and three
of them have to be names of something. -/

structure Profile where
  mode : String
  format : String
  registerMark : String
  listen : String
  logLevel : String
  deriving DecidableEq, Repr

def Profile.standard : Profile where
  mode := "hex"
  format := "text"
  registerMark := "$"
  listen := ":1357"
  logLevel := "info"

/-- A setting that names nothing. -/
inductive SettingError where
  | mode (value : String)
  | format (value : String)
  | logLevel (value : String)
  deriving DecidableEq, Repr

def SettingError.message : SettingError → String
  | .mode value => "invalid mode: " ++ Text.quote value
  | .format value => "invalid format: " ++ Text.quote value
  | .logLevel value =>
    "invalid log level: not a valid logrus Level: " ++ Text.quote value

def logLevels : List String :=
  ["panic", "fatal", "error", "warn", "warning", "info", "debug", "trace"]

/-- Log levels may be written in any letter case. -/
def isLogLevel (text : String) : Bool := logLevels.contains (Text.lower text)

namespace Profile

/-- The first setting that names nothing, if there is one. -/
def fault? (profile : Profile) : Option SettingError :=
  if (Mode.ofName? profile.mode).isNone then some (.mode profile.mode)
  else if (Rendering.ofName? profile.format).isNone then some (.format profile.format)
  else if !isLogLevel profile.logLevel then some (.logLevel profile.logLevel)
  else none

def validate (profile : Profile) : Except SettingError Profile :=
  match profile.fault? with
  | some error => .error error
  | none => .ok profile

/-! A profile file is a mapping. Its keys replace settings, except where their
value is null; keys of other names are passed over. -/

inductive Setting where
  | mode
  | format
  | registerMark
  | listen
  | logLevel
  deriving DecidableEq, Repr

def Setting.key : Setting → String
  | .mode => "mode"
  | .format => "format"
  | .registerMark => "register_prefix"
  | .listen => "listen"
  | .logLevel => "log_level"

def Setting.ofKey? (key : String) : Option Setting :=
  [Setting.mode, .format, .registerMark, .listen, .logLevel].find? (·.key == key)

def set (profile : Profile) (setting : Setting) (value : String) : Profile :=
  match setting with
  | .mode => { profile with mode := value }
  | .format => { profile with format := value }
  | .registerMark => { profile with registerMark := value }
  | .listen => { profile with listen := value }
  | .logLevel => { profile with logLevel := value }

def get (profile : Profile) : Setting → String
  | .mode => profile.mode
  | .format => profile.format
  | .registerMark => profile.registerMark
  | .listen => profile.listen
  | .logLevel => profile.logLevel

/-- Replaces one setting after the other. -/
def replace (profile : Profile) (changes : List (Setting × String)) : Profile :=
  changes.foldl (fun profile change => profile.set change.1 change.2) profile

end Profile

end MipsGloss
