import OmpMySQL.Amx
import OmpMySQL.Library.Table

/-! The options a connection is opened with, and the sets of them that scripts fill
in one option at a time. -/

namespace OmpMySQL
open Library

inductive SSLMode where
  | required
  | verifyCA
  | verifyIdentity
  deriving DecidableEq, Repr

structure ConnectionOptions where
  host : String := "127.0.0.1"
  user : String := ""
  password : String := ""
  database : String := ""
  port : Nat := 3306
  connectTimeout : Nat := 0
  readTimeout : Nat := 0
  writeTimeout : Nat := 0
  autoReconnect : Bool := false
  multiStatements : Bool := false
  sslMode : SSLMode := .verifyCA
  sslCA : String := ""
  sslCAPath : String := ""
  sslCert : String := ""
  sslKey : String := ""
  sslCRL : String := ""
  sslCRLPath : String := ""
  sslCipher : String := ""
  tlsVersion : String := "TLSv1.3,TLSv1.2"
  compression : String := ""
  zstdLevel : Int := 3
  deriving DecidableEq, Repr

/-- `MySQLOptionType`, in the order of its ordinals. -/
inductive MySQLOptionType where
  | autoReconnect
  | multiStatements
  | poolSize
  | serverPort
  | connectTimeout
  | readTimeout
  | writeTimeout
  | sslMode
  | sslCA
  | sslCAPath
  | sslCert
  | sslKey
  | sslCRL
  | sslCRLPath
  | sslCipher
  | tlsVersion
  | compression
  | zstdCompressionLevel
  | maxQueriesPerSecond
  | maxQueryLength
  | maxPendingQueries
  deriving DecidableEq, Repr

def MySQLOptionType.all : List MySQLOptionType :=
  [.autoReconnect, .multiStatements, .poolSize, .serverPort, .connectTimeout, .readTimeout, .writeTimeout, .sslMode,
    .sslCA, .sslCAPath, .sslCert, .sslKey, .sslCRL, .sslCRLPath, .sslCipher, .tlsVersion, .compression,
    .zstdCompressionLevel, .maxQueriesPerSecond, .maxQueryLength, .maxPendingQueries]

/-- The option a script's number stands for. -/
def MySQLOptionType.ofInt (type : Int) : Option MySQLOptionType := if type < 0 then none else all[type.toNat]?

/-- `static_cast<unsigned int>`. -/
def toUnsigned (value : Int) : Nat := (value % 0x100000000).toNat

def SSLMode.ofInt : Int → Option SSLMode
  | 0 => some .required
  | 1 => some .verifyCA
  | 2 => some .verifyIdentity
  | _ => none

def optionIsString : Option MySQLOptionType → Bool
  | some .sslCA | some .sslCAPath | some .sslCert | some .sslKey | some .sslCRL | some .sslCRLPath | some .sslCipher
  | some .tlsVersion | some .compression => true
  | _ => false

def applyIntOption (o : ConnectionOptions) (type : Option MySQLOptionType) (value : Int) : ConnectionOptions :=
  match type with
  | some .autoReconnect => { o with autoReconnect := value ≠ 0 }
  | some .multiStatements => { o with multiStatements := value ≠ 0 }
  | some .serverPort => { o with port := toUnsigned value }
  | some .connectTimeout => { o with connectTimeout := toUnsigned value }
  | some .readTimeout => { o with readTimeout := toUnsigned value }
  | some .writeTimeout => { o with writeTimeout := toUnsigned value }
  -- Out of range leaves the mode as it is.
  | some .sslMode => { o with sslMode := (SSLMode.ofInt value).getD o.sslMode }
  | some .zstdCompressionLevel => { o with zstdLevel := value }
  | _ => o

def applyStringOption (o : ConnectionOptions) (type : Option MySQLOptionType) (value : String) : ConnectionOptions :=
  match type with
  | some .sslCA => { o with sslCA := value }
  | some .sslCAPath => { o with sslCAPath := value }
  | some .sslCert => { o with sslCert := value }
  | some .sslKey => { o with sslKey := value }
  | some .sslCRL => { o with sslCRL := value }
  | some .sslCRLPath => { o with sslCRLPath := value }
  | some .sslCipher => { o with sslCipher := value }
  | some .tlsVersion => { o with tlsVersion := value }
  | some .compression => { o with compression := value }
  | _ => o

/-- What stands at the address of the variadic argument: its cell, and what it reads
as for a string. -/
structure ConfigArgument where
  cell : Cell
  text : String
  deriving DecidableEq, Repr

/-- `argument` is `none` where `amx_GetAddr` fails. -/
structure Setting where
  type : Int
  argument : Option ConfigArgument
  deriving DecidableEq, Repr

def Setting.option (setting : Setting) : Option MySQLOptionType := MySQLOptionType.ofInt setting.type

/-- The value an integer option is set to. -/
def Setting.int (setting : Setting) : Int := setting.argument.elim 0 (·.cell)

/-- The body of `mysql_config_set` once it has the options; it returns 0 where this is
`none`. -/
def Setting.apply (setting : Setting) (o : ConnectionOptions) : Option ConnectionOptions :=
  if optionIsString setting.option then
    setting.argument.map fun argument => applyStringOption o setting.option argument.text
  else some (applyIntOption o setting.option setting.int)

structure OptionSets where
  options : Table Int ConnectionOptions := .empty
  nextOptions : Int := 1

namespace OptionSets

def addOptions (sets : OptionSets) : OptionSets × Int :=
  ({ options := sets.options.emplace sets.nextOptions {}, nextOptions := sets.nextOptions + 1 }, sets.nextOptions)

def getOptions (sets : OptionSets) (handle : Int) : Option ConnectionOptions := sets.options handle

def configSet (sets : OptionSets) (options : Int) (setting : Setting) : OptionSets × Int :=
  match (sets.getOptions options).bind setting.apply with
  | none => (sets, 0)
  | some changed => ({ sets with options := sets.options.put options changed }, 1)

/-- The option sets' part of `reset()`. -/
def reset (_ : OptionSets) : OptionSets := {}

end OptionSets
end OmpMySQL
