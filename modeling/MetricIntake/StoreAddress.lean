import MetricIntake.CertificateCheck
import MetricIntake.Named
import MetricIntake.Numeral.AnyScript
import MetricIntake.Url

/-!
# Store addresses

Where a store is and how it is accessed: `StoreAddress`.  `StoreAddress.ofUrl` takes it from a URL,
any part of which behind the scheme may be missing, and whose query may name the parts that the rest
of the URL does not.
-/

namespace MetricIntake

/-- The port of a store: a number, or what a query has for it. -/
inductive StorePort
  | number (n : Nat)
  | written (text : String)
deriving DecidableEq, Repr

/-- Where a store is and how it is accessed, as far as that is told. -/
structure StoreAddress where
  host : Option String
  tcpPort : Option StorePort
  /-- The number of the database. -/
  database : Option Int
  user : Option String
  password : Option String
deriving DecidableEq, Repr

/-- Why a URL is no address. -/
inductive AddressError
  | unknownScheme
  | badUrl (e : UrlError)
  | badOption (name : String)
  /-- An option has the name of the pool of connections itself. -/
  | reservedOption
  | negativeLimit
  /-- Something is to be the cache of the connections, which a URL cannot give. -/
  | unusableCache
  /-- The same, with a protocol that has no such caches. -/
  | uncachedProtocol
  /-- An option is to be something with this part, which a text does not have. -/
  | lackingPart (part : String)
deriving DecidableEq, Repr

/-- What is said about a URL that is no address. -/
def AddressError.message : AddressError → String
  | unknownScheme =>
    "Redis URL must specify one of the following schemes (redis://, rediss://, unix://)"
  | badUrl e => e.message
  | badOption name => "Invalid value for '" ++ name ++ "' in connection URL."
  | reservedOption => "ConnectionPool.__init__() got multiple values for argument 'self'"
  | negativeLimit => "\"max_connections\" must be a positive integer"
  | unusableCache => "Cache must implement CacheInterface"
  | uncachedProtocol => "Client caching is only supported with RESP version 3"
  | lackingPart part => "'str' object has no attribute '" ++ part ++ "'"

namespace StoreAddress

/-- What a URL may start with, and whether it leads to a host. -/
def schemes : List (String × Bool) := [("redis://", true), ("rediss://", true), ("unix://", false)]

/-- Whether a URL leads to a host, told from what it starts with. -/
def isHosted? (cs : List Char) : Option Bool :=
  (schemes.find? fun (scheme, _) => scheme.toList.isPrefixOf cs).map (·.2)

/-- The sorts of options whose values are checked. -/
inductive OptionSort
  | whole
  | double
  | checks
deriving DecidableEq, Repr

/-- A text is a value of an option. -/
def OptionSort.admits : OptionSort → List Char → Bool
  | whole, value => (Numeral.wholeInAnyScript? value).isSome
  | double, value => Numeral.isDoubleInAnyScript value
  | checks, value => CertificateCheck.isList value

/-- The options whose values are checked. -/
def optionSorts : List (String × OptionSort) :=
  [("db", .whole), ("max_connections", .whole), ("health_check_interval", .whole),
    ("protocol", .whole), ("socket_read_size", .whole), ("ssl_min_version", .whole),
    ("socket_timeout", .double), ("socket_connect_timeout", .double), ("timeout", .double),
    ("ssl_include_verify_flags", .checks), ("ssl_exclude_verify_flags", .checks)]

/-- An option has a value of its sort; those of other names may have any. -/
def isValidOption (name : String) (value : List Char) : Bool :=
  (Named.lookup name optionSorts).all (·.admits value)

/-- Options by their names. -/
abbrev Options := List (String × List Char)

/-- The options of a URL, if all are valid. -/
def readOptions (u : Url) : Except AddressError Options :=
  match u.options.find? fun (name, value) => !isValidOption name value with
  | some (name, _) => .error (.badOption name)
  | none => .ok u.options

namespace Options

/-- An option is given. -/
def has (options : Options) (name : String) : Bool := (Named.lookup name options).isSome

/-- The text of an option. -/
def text? (options : Options) (name : String) : Option String :=
  (Named.lookup name options).map String.ofList

/-- The whole number of an option. -/
def whole? (options : Options) (name : String) : Option Int :=
  (Named.lookup name options).bind Numeral.wholeInAnyScript?

end Options

/-- The version of the protocol that allows caches and is spoken unless an option says otherwise. -/
def cachingProtocol : Int := 3

/-- What is wrong with the options for the connections.  A text can be neither a cache nor a setting
or a handler for notices of maintenance, of which the handler counts only with a host and with a
protocol that allows caches. -/
def optionsError? (options : Options) (hosted : Bool) : Option AddressError :=
  let caching := (options.whole? "protocol").all (· = cachingProtocol)
  if options.has "self" then some .reservedOption
  else if (options.whole? "max_connections").any (· < 0) then some .negativeLimit
  else if options.has "cache" || options.has "cache_config" then
    if !caching then some .uncachedProtocol
    else if options.has "cache" then some .unusableCache
    else if options.has "cache_factory" then some (.lackingPart "get_cache")
    else some (.lackingPart "get_cache_class")
  else if options.has "maint_notifications_config" then some (.lackingPart "enabled")
  else if options.has "oss_cluster_maint_notifications_handler" && hosted && caching then
    some (.lackingPart "config")
  else none

/-- The database that a path names.  Slashes in it do not count. -/
def pathDatabase? (path : List Char) : Option Int :=
  Numeral.wholeInAnyScript? ((Percent.decodeText path).filter (· ≠ '/'))

/-- The address in a URL. -/
def ofUrl (text : String) : Except AddressError StoreAddress := do
  let some hosted := isHosted? text.toList | throw .unknownScheme
  let url ← (Url.read text.toList).mapError .badUrl
  let options ← readOptions url
  let number ← if hosted then url.portNumber.mapError .badUrl else pure none
  let number := number.filter (· ≠ 0)
  if let some e := optionsError? options hosted then throw e
  return { host := (if hosted then url.host? else none).or (options.text? "host")
           tcpPort := (number.map .number).or ((options.text? "port").map .written)
           database := (options.whole? "db").or (if hosted then pathDatabase? url.path else none)
           user := url.user?.or (options.text? "username")
           password := url.password?.or (options.text? "password") }

end StoreAddress

end MetricIntake
