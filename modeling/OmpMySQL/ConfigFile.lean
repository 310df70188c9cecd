import OmpMySQL.CLibrary
import OmpMySQL.ConnectionOptions

/-! Connection options from a file of `key = value` lines, which may be obfuscated,
with values taken from the environment. -/

namespace OmpMySQL

/-- `std::getenv`. -/
abbrev Environment := String → Option String

/-- `ExpandEnv` from the middle of its text. `skip` characters ahead belong to the
variable that was expanded last. -/
def expandFrom (env : Environment) : Nat → List Char → List Char
  | _, [] => []
  | skip + 1, _ :: rest => expandFrom env skip rest
  | 0, char :: rest =>
    let name := (rest.drop 1).takeWhile (· ≠ '}')
    if char = '$' ∧ rest.head? = some '{' ∧ '}' ∈ rest.drop 1 then
      let value := if name = [] then none else env (cString (String.ofList name))
      (value.getD "").toList ++ expandFrom env (name.length + 2) rest
    else char :: expandFrom env 0 rest

def expandEnv (env : Environment) (text : String) : String := String.ofList (expandFrom env 0 text.toList)

def cfgMagic : String := "OMPMENC1"

/-- FNV-1a. -/
def fnv (hash : UInt32) (char : Char) : UInt32 := (hash ^^^ UInt32.ofNat (char.toNat % 256)) * 16777619

def cfgKeySeed (env : Environment) : UInt32 :=
  let key := (env "OMP_CFG_KEY").getD ""
  if key = "" then 0x6F6D704D
  else
    let hash := key.toList.foldl fnv 2166136261
    if hash = 0 then 1 else hash

def xorshift (s : UInt32) : UInt32 :=
  let s := s ^^^ (s <<< 13)
  let s := s ^^^ (s >>> 17)
  s ^^^ (s <<< 5)

def cfgXor (s : UInt32) : List Char → List Char
  | [] => []
  | char :: rest =>
    let s := xorshift s
    Char.ofNat ((char.toNat % 256) ^^^ (s.toNat % 256)) :: cfgXor s rest

def cfgDecodeIfNeeded (env : Environment) (raw : String) : String :=
  if cfgMagic.toList <+: raw.toList then
    String.ofList (cfgXor (cfgKeySeed env) (raw.toList.drop cfgMagic.length))
  else raw

/-- What `mysql_config_obfuscate` writes for a file with this text, if it accepts it. -/
def configObfuscate (env : Environment) (raw : String) : Option String :=
  if cfgMagic.toList <+: raw.toList then none
  else some (cfgMagic ++ String.ofList (cfgXor (cfgKeySeed env) raw.toList))

/-- The pieces of a text between the separators. -/
def pieces (separator : Char) : List Char → List (List Char)
  | [] => [[]]
  | char :: rest =>
    if char = separator then [] :: pieces separator rest
    else match pieces separator rest with
      | [] => [[char]]
      | first :: others => (char :: first) :: others

def isBlank (char : Char) : Bool := char = ' ' || char = '\t' || char = '\r' || char = '\n'

def trim (text : List Char) : List Char := ((text.dropWhile isBlank).reverse.dropWhile isBlank).reverse

/-- What a line sets: comments are cut off first, and a line without `=` sets nothing. -/
def configLine (env : Environment) (line : List Char) : Option (String × String) :=
  let line := line.takeWhile fun char => char ≠ '#' ∧ char ≠ ';'
  if '=' ∈ line then
    let key := line.takeWhile (· ≠ '=')
    let value := (line.dropWhile (· ≠ '=')).drop 1
    some (String.ofList (trim key), expandEnv env (String.ofList (trim value)))
  else none

/-- `std::atoi` of a value. -/
def configInt (value : String) : Int := strtol (cString value)

def isOn (value : String) : Bool := value = "1" || value = "true"

/-- The keys for debug output come to nothing here. -/
def applyConfig (o : ConnectionOptions) (entry : String × String) : ConnectionOptions :=
  let (key, value) := entry
  if key = "host" then { o with host := value }
  else if key = "user" then { o with user := value }
  else if key = "password" then { o with password := value }
  else if key = "database" then { o with database := value }
  else if key = "port" then { o with port := toUnsigned (configInt value) }
  else if key = "ssl_mode" then { o with sslMode := (SSLMode.ofInt (configInt value)).getD o.sslMode }
  else if key = "ssl_ca" then { o with sslCA := value }
  else if key = "ssl_cert" then { o with sslCert := value }
  else if key = "ssl_key" then { o with sslKey := value }
  else if key = "ssl_crl" then { o with sslCRL := value }
  else if key = "tls_version" then { o with tlsVersion := value }
  else if key = "compression" then { o with compression := value }
  else if key = "auto_reconnect" then { o with autoReconnect := isOn value }
  else o

/-- The debug output that a file asks for. -/
structure ConfigDebug where
  cfgDebug : Bool := false
  cfgDebugFile : String := ""
  deriving DecidableEq, Repr

def applyDebug (d : ConfigDebug) (entry : String × String) : ConfigDebug :=
  let (key, value) := entry
  if key = "debug" then { d with cfgDebug := isOn value }
  else if key = "debug_log" then { d with cfgDebugFile := value }
  else d

/-- All that a file sets, in order. -/
def configEntries (env : Environment) (raw : String) : List (String × String) :=
  (pieces '\n' (cfgDecodeIfNeeded env raw).toList).filterMap (configLine env)

def readConfig (env : Environment) (raw : String) : ConnectionOptions := (configEntries env raw).foldl applyConfig {}

def readDebug (env : Environment) (raw : String) : ConfigDebug := (configEntries env raw).foldl applyDebug {}

end OmpMySQL
