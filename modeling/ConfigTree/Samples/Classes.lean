import ConfigTree.Binding.Schema

namespace ConfigTree

namespace Samples

/-- The full path of a sample type. -/
def typePath (name : String) : String := "oracle_driver::fixed::" ++ name

/-- A field-style sample class. -/
def fieldClass (name : String) : ClassRef := ⟨name, typePath name⟩

/-- A getter-style sample class: its name is the interface's, its path the bound type's. -/
def getterClass (name : String) : ClassRef := ⟨name, typePath ("Bound" ++ name)⟩

/-- How servers of a cluster share the load. -/
def balancing : EnumDecl :=
  EnumDecl.declare Naming.upperSnake "Balancing" (typePath "Balancing")
    [("RoundRobin", none), ("LeastConnections", some "least-connections"),
     ("WeightedRandom", some "Weighted Random"), ("IpHash", none)]

/-- The transport of a listener. -/
def transport : EnumDecl := EnumDecl.declare Naming.upperSnake "Transport" (typePath "Transport") [("Tcp", none), ("Quic", none)]

/-- A level with unusual configuration names. -/
def level : EnumDecl :=
  EnumDecl.declare Naming.upperSnake "Level" (typePath "Level")
    [("Trace", some " trace "), ("DebugMode", none), ("Http2Only", none),
     ("Street", some "straße"), ("Unicode", some "ünï-cödé")]

/-- The enumerations of the samples. -/
def enums : List EnumDecl := [balancing, transport, level]

/-- A text. -/
def text : Shape := .scalar .string

/-- An integer of a kind. -/
def int (k : IntKind) : Shape := .scalar (.int k)

/-- A required text field. -/
def requiredText (name : String) : FieldDecl := { name := name, shape := text, attr := .required }

/-- A field with a default value. -/
def withDefault (name : String) (shape : Shape) (v : Value) : FieldDecl :=
  { name := name, shape := shape, attr := .withDefault, default := some v }

/-- A field marked as the parent reference to a class. -/
def parentField (name : String) (c : ClassRef) : FieldDecl :=
  { name := name, shape := .parent c, attr := .parent }

/-- A getter with a default body, of a kind. -/
def getter (name : String) (shape : Shape) (kind : GetterKind) (body : Body) : GetterDecl :=
  { name := name, shape := some shape, kind := kind, body := body, target := getterClass "Root" }

/-- A body giving a number of an integer kind. -/
def number (k : IntKind) (n : Int) : Body := .convert (.int k) (.literal (.int n))

def counter : ClassRef := fieldClass "Counter"
def named : ClassRef := fieldClass "Named"
def server : ClassRef := fieldClass "Server"
def cluster : ClassRef := fieldClass "Cluster"
def region : ClassRef := fieldClass "Region"
def zone : ClassRef := fieldClass "Zone"
def api : ClassRef := fieldClass "Api"
def limits : ClassRef := fieldClass "Limits"
def stats : ClassRef := fieldClass "Stats"
def relaxedStats : ClassRef := fieldClass "RelaxedStats"
def wrongIdentity : ClassRef := fieldClass "WrongIdentity"
def endless : ClassRef := fieldClass "Endless"
def service : ClassRef := fieldClass "Service"
def database : ClassRef := fieldClass "Database"
def webServer : ClassRef := getterClass "WebServer"
def tokens : ClassRef := getterClass "Tokens"
def root : ClassRef := getterClass "Root"
def child : ClassRef := getterClass "Child"
def listener : ClassRef := getterClass "Listener"
def misdeclared : ClassRef := getterClass "Misdeclared"
def looping : ClassRef := getterClass "Looping"

/-- The declarations of the field-style samples. -/
def fieldSchemas : List (ClassRef × FieldSchema) := [
  (counter, { fields := [withDefault "count" (int .i32) (.int 5)] }),
  (named, { fields := [requiredText "name"] }),
  (server, { fields := [requiredText "host", withDefault "port" (int .u16) (.int 8080),
    parentField "cluster" cluster] }),
  (cluster, { fields := [requiredText "name", { name := "servers", shape := .list (.nested server) },
    withDefault "balancing" (.scalar (.enum balancing)) (.str "round-robin"),
    { name := "raw", shape := .scalar .node, attr := .identity }] }),
  (region, { fields := [requiredText "name",
    { name := "zones", shape := .orderedMap .string (.nested zone) },
    { name := "standby", shape := .unorderedSet (.nested zone) }] }),
  (zone, { fields := [requiredText "host", withDefault "port" (int .u16) (.int 8080),
    parentField "region" region] }),
  (api, { naming := Naming.convert .camelCase, fields := [
    { name := "limits", shape := .nested limits },
    { name := "burst_limits", shape := .nested limits, attr := .withFallback,
      fallback := [("burst", .int 99)] },
    { name := "tags", shape := .list text, attr := .defaultWith, default := some (.list [.str "default"]) },
    { name := "io_threads", shape := int .u8, rename := some "io.threads" },
    { name := "max_retries", shape := .option (int .u32) },
    { name := "cache", shape := .list (int .u8), attr := .skip }] }),
  (limits, { fields := [withDefault "burst" (int .u32) (.int 10)] }),
  (stats, { fields := [{ name := "hits", shape := .atomic (.int .u64) }] }),
  (relaxedStats, { allowMutable := true, fields := [{ name := "hits", shape := .atomic (.int .u64) }] }),
  (wrongIdentity, { fields := [{ name := "raw", shape := text, attr := .identity }] }),
  (endless, { fields := [{ name := "next", shape := .nested endless }] }),
  (service, { naming := Naming.convert .snakeCase, fields := [requiredText "name",
    { name := "database", shape := .nested database },
    withDefault "log_file" text (.str "$\x7bname\x7d.log"),
    { name := "tags", shape := .list text }] }),
  (database, { fields := [requiredText "host", withDefault "port" (int .u16) (.int 5432),
    withDefault "password" text (.str "")] })]

/-- The declarations of the getter-style samples. -/
def getterSchemas : List (ClassRef × GetterSchema) := [
  (webServer, { naming := Naming.convert .camelCase, getters := [
    getter "host" text .property (.literal .null),
    getter "port" (int .u16) .defaulted (number .u16 8080),
    getter "admin_port" (int .u16) .defaulted (.convert (.int .u16) (.inc (.get "port"))),
    getter "api_key" (.option text) .property (.literal .null),
    getter "url" text .computed (.concat [.literal (.str "http://"), .get "host", .literal (.str ":"), .get "port"]),
    getter "node" (.scalar .node) .identity (.literal .null),
    getter "describe" text .method (.concat [.literal (.str "host: "), .get "host"])] }),
  (tokens, { getters := [
    getter "first" text .computed (.get "nonce"),
    getter "second" text .computed (.get "nonce"),
    getter "nonce" text .computed (.literal (.str "nonce"))] }),
  (root, { naming := Naming.convert .camelCase, getters := [
    getter "name" text .property (.literal .null),
    getter "child" (.nested child) .property (.literal .null),
    getter "default_timeout" (int .u32) .defaulted (number .u32 5)] }),
  (child, { getters := [
    getter "label" text .property (.literal .null),
    { name := "root", kind := .parent, target := root },
    getter "timeout" (int .u32) .defaulted
      (.convert (.int .u32) (.parentGet "root" "default_timeout" (.literal (.int 1)))),
    getter "qualified" text .computed
      (.ifParent "root" (.concat [.parentGet "root" "name" (.literal (.str "")), .literal (.str "."), .get "label"])
        (.get "label"))] }),
  (listener, { getters := [
    getter "transport" (.scalar (.enum transport)) .property (.literal .null),
    getter "backlog" (int .u32) .defaulted (number .u32 128)] }),
  (misdeclared, { getters := [getter "raw" text .identity (.literal .null)] }),
  (looping, { getters := [
    getter "a" (int .u32) .defaulted (.convert (.int .u32) (.get "b")),
    getter "b" (int .u32) .defaulted (.convert (.int .u32) (.get "a"))] })]

/-- The catalogue of all samples. -/
def catalogue : Catalogue :=
  ⟨fieldSchemas.map (fun (c, s) => (c, .fields s)) ++ getterSchemas.map (fun (c, s) => (c, .getters s))⟩

end Samples

end ConfigTree
