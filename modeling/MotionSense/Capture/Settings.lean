import MotionSense.Storage.State

/-!
# The configuration file

`config.c` as far as the writer and the capture thread depend on it.  The YAML
library hands over a document of nodes; a value that is no number is read as
zero, and no value is checked.
-/

namespace MotionSense

/-- `yaml_node_t`, with the nodes themselves in place of their numbers. -/
inductive YamlNode
  | scalar (value : CString)
  | sequence
  | mapping (pairs : List (YamlNode × YamlNode))

namespace YamlNode

/-- The key of a pair is a scalar with the given text. -/
def isKey (key : CString) : YamlNode → Bool
  | .scalar value => value = key
  | _ => false

/-- `map_get`. -/
def mapGet (map : YamlNode) (key : CString) : Option YamlNode :=
  match map with
  | .mapping pairs => (pairs.find? fun pair => pair.1.isKey key).map Prod.snd
  | _ => none

/-- `str_val`. -/
def strVal (map : YamlNode) (key : CString) : Option CString :=
  match map.mapGet key with
  | some (.scalar value) => some value
  | _ => none

end YamlNode

/-! ## Numbers -/

/-- `isspace`. -/
def isSpace (char : Char) : Bool :=
  char = ' ' || ('\t' ≤ char && char ≤ '\r')

/-- The sign and the decimal digits that `strtol` and `strtoul` read. -/
def signedDigits (text : CString) : Bool × Nat :=
  let magnitude : CString → Nat := fun digits =>
    Nat.ofDigitChars 10 (digits.takeWhile Char.isDigit) 0
  match text.dropWhile isSpace with
  | '-' :: digits => (true, magnitude digits)
  | '+' :: digits => (false, magnitude digits)
  | digits => (false, magnitude digits)

/-- `atoi`, which is `strtol` of a `long` of 32 bits. -/
def atoi (text : CString) : Int :=
  let (negative, magnitude) := signedDigits text
  if negative then max (-2 ^ 31) (-magnitude)
  else min (2 ^ 31 - 1) magnitude

/-- `strtoul` of an `unsigned long` of 32 bits. -/
def strtoul (text : CString) : Nat :=
  let (negative, magnitude) := signedDigits text
  if 2 ^ 32 ≤ magnitude then 2 ^ 32 - 1
  else if negative then (2 ^ 32 - magnitude) % 2 ^ 32
  else magnitude

namespace YamlNode

/-- `int_val`. -/
def intVal (map : YamlNode) (key : CString) (default : Int) : Int :=
  match map.strVal key with
  | some value => atoi value
  | none => default

/-- `u32_val`. -/
def u32Val (map : YamlNode) (key : CString) (default : Nat) : Nat :=
  match map.strVal key with
  | some value => strtoul value
  | none => default

end YamlNode

/-! ## Sections -/

/-- `parse_ivs`. -/
def parseIvs (node : YamlNode) (config : Config) : Config :=
  { config with
    fpsLow := node.intVal "fps_low".toList config.fpsLow
    fpsHigh := node.intVal "fps_high".toList config.fpsHigh
    motionDebounceMs :=
      node.intVal "motion_debounce_ms".toList config.motionDebounceMs }

/-- `parse_storage`. -/
def parseStorage (node : YamlNode) (config : Config) : Config :=
  { config with
    hlsDurationS :=
      node.intVal "hls_duration_s".toList config.hlsDurationS
    diskFreeMinMb :=
      node.u32Val "disk_free_min_mb".toList config.diskFreeMinMb
    cleanupEveryTs :=
      node.intVal "cleanup_every_ts".toList config.cleanupEveryTs }

/-- Parse a section that is there. -/
def parseSection
    (root : YamlNode) (key : CString) (parse : YamlNode → Config → Config)
    (config : Config) : Config :=
  match root.mapGet key with
  | some found => parse found config
  | none => config

/-- `ms_config_load`: the root of the document, unless the file is missing, is
no YAML or is empty. -/
def msConfigLoad (root : Option YamlNode) : Config :=
  match root with
  | none => {}
  | some root =>
      parseSection root "storage".toList parseStorage
        (parseSection root "ivs".toList parseIvs {})

end MotionSense
