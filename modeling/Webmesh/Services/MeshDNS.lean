import Webmesh.Go.Text

/-!
# Mesh DNS options

The options of the mesh DNS service go through three hands: `NewMeshDNSOptions` gives the
defaults, `BindFlags` registers one flag per option (writing each flag's default, read from the
environment, into the options at once, as Go's `flag` does), and `Validate` checks them and,
when mesh DNS is on with no forwarders, fills the forwarders from the environment.

The `util` lookups `BindFlags` takes its defaults from are not in the sources, so they are a
parameter (`Util`), and so is `os.Getenv`. `time.Duration` is a count of nanoseconds. A `nil`
options pointer is `none`.

## Main results

* `validate_validate`: `Validate` is idempotent.
* `validate_setForwarders`: once the forwarders flag is given, with any value, `Validate`
  never reads the environment and keeps the forwarders as the flag set them.
-/

namespace Webmesh.Services.MeshDNS

open Go

def meshDNSEnabledEnvVar : String := "SERVICES_MESH_DNS_ENABLED"
def meshDNSListenUDPEnvVar : String := "SERVICES_MESH_DNS_LISTEN_UDP"
def meshDNSListenTCPEnvVar : String := "SERVICES_MESH_DNS_LISTEN_TCP"
def meshDNSReusePortEnvVar : String := "SERVICES_MESH_DNS_REUSE_PORT"
def meshDNSCompressionEnvVar : String := "SERVICES_MESH_DNS_COMPRESSION"
def meshDNSRequestTimeoutEnvVar : String := "SERVICES_MESH_DNS_REQUEST_TIMEOUT"
def meshDNSForwardersEnvVar : String := "SERVICES_MESH_DNS_FORWARDERS"
def meshDNSDisableForwardingEnvVar : String := "SERVICES_MESH_DNS_DISABLE_FORWARDING"
def meshDNSCacheSizeEnvVar : String := "SERVICES_MESH_DNS_CACHE_SIZE"

/-- `time.Second`, in nanoseconds. -/
def second : Int := 1000000000

/-- `MeshDNSOptions`. -/
structure MeshDNSOptions where
  enabled : Bool
  listenUDP : String
  listenTCP : String
  reusePort : Int
  enableCompression : Bool
  requestTimeout : Int
  forwarders : List String
  disableForwarding : Bool
  cacheSize : Int
  deriving DecidableEq, Repr

/-- `NewMeshDNSOptions`; the fields it does not name are Go's zero values. -/
def newMeshDNSOptions : MeshDNSOptions where
  enabled := false
  listenUDP := ":5353"
  listenTCP := ":5353"
  reusePort := 0
  enableCompression := true
  requestTimeout := second * 5
  forwarders := []
  disableForwarding := false
  cacheSize := 0

/-! ## Binding the flags -/

/-- `util.GetEnvDefault`, `util.GetEnvIntDefault` and `util.GetEnvDurationDefault`: a value
read from the environment variable named first, or the default given second. -/
structure Util where
  getEnvDefault : String → String → String
  getEnvIntDefault : String → Int → Int
  getEnvDurationDefault : String → Int → Int

/-- `MeshDNSOptions.BindFlags`: the names of the flags it registers, in order, and the options
after registering them. Each `fs.BoolVar`, `fs.StringVar`, `fs.IntVar` and `fs.DurationVar`
stores its default in its field; `fs.Func` for the forwarders stores nothing. -/
def bindFlags (u : Util) (o : MeshDNSOptions) (prefixes : List String) : List String × MeshDNSOptions :=
  let p := if prefixes.length > 0 then ".".intercalate prefixes ++ "." else ""
  ([p ++ "services.mesh-dns.enabled", p ++ "services.mesh-dns.listen-udp",
      p ++ "services.mesh-dns.listen-tcp", p ++ "services.mesh-dns.reuse-port",
      p ++ "services.mesh-dns.enable-compression", p ++ "services.mesh-dns.request-timeout",
      p ++ "services.mesh-dns.forwarders", p ++ "services.mesh-dns.disable-forwarding",
      p ++ "services.mesh-dns.cache-size"],
    { o with
      enabled := u.getEnvDefault meshDNSEnabledEnvVar "false" == "true"
      listenUDP := u.getEnvDefault meshDNSListenUDPEnvVar ":5353"
      listenTCP := u.getEnvDefault meshDNSListenTCPEnvVar ":5353"
      reusePort := u.getEnvIntDefault meshDNSReusePortEnvVar 0
      enableCompression := u.getEnvDefault meshDNSCompressionEnvVar "true" == "true"
      requestTimeout := u.getEnvDurationDefault meshDNSRequestTimeoutEnvVar (5 * second)
      disableForwarding := u.getEnvDefault meshDNSDisableForwardingEnvVar "false" == "true"
      cacheSize := u.getEnvIntDefault meshDNSCacheSizeEnvVar 0 })

/-- What the forwarders flag's function does with the flag's text. -/
def setForwarders (s : String) (o : MeshDNSOptions) : MeshDNSOptions :=
  { o with forwarders := split s ',' }

/-! ## Validation -/

/-- `MeshDNSOptions.Validate` on the options `o` points to, with `os.Getenv` as `getenv`: the
error it returns and the options after it. -/
def validate (getenv : String → String) : Option MeshDNSOptions → Except String Unit × Option MeshDNSOptions
  | none => (.ok (), none)
  | some o =>
    if o.enabled then
      if o.listenTCP = "" ∧ o.listenUDP = "" then
        (.error "must specify a TCP or UDP address for mesh DNS", some o) else
      if o.forwarders.length = 0 ∧ !o.disableForwarding then
        let envval := getenv meshDNSForwardersEnvVar
        if envval ≠ "" then (.ok (), some { o with forwarders := split envval ',' }) else (.ok (), some o)
      else (.ok (), some o)
    else (.ok (), some o)

section Validate

variable (getenv : String → String) (o : MeshDNSOptions)

/-- With forwarders already set, or forwarding disabled, `Validate` changes nothing. -/
theorem validate_of_forwarders (h : o.forwarders ≠ [] ∨ o.disableForwarding = true) :
    validate getenv (some o) = (if o.enabled ∧ o.listenTCP = "" ∧ o.listenUDP = "" then
      .error "must specify a TCP or UDP address for mesh DNS" else .ok (), some o) := by
  rcases h with h | h <;> by_cases hl : o.listenTCP = "" ∧ o.listenUDP = "" <;> cases he : o.enabled <;>
    simp [validate, he, hl, h]

/-- **`Validate` is idempotent**: a second call changes nothing and returns what the first did. -/
theorem validate_validate (o : Option MeshDNSOptions) :
    validate getenv (validate getenv o).2 = validate getenv o := by
  rcases o with _ | o
  · rfl
  by_cases hf : o.forwarders ≠ [] ∨ o.disableForwarding = true
  · rw [validate_of_forwarders getenv o hf]
    exact validate_of_forwarders getenv o hf
  obtain ⟨hnil, hdis⟩ : o.forwarders = [] ∧ o.disableForwarding = false := by simpa using hf
  cases he : o.enabled <;> by_cases hl : o.listenTCP = "" ∧ o.listenUDP = "" <;>
    by_cases hv : getenv meshDNSForwardersEnvVar = "" <;> simp [validate, he, hl, hv, hnil, hdis, split_ne_nil]

/-- **The forwarders flag wins over the environment**: once it is given, whatever its text,
`Validate` does not read `SERVICES_MESH_DNS_FORWARDERS` and keeps the flag's forwarders. -/
theorem validate_setForwarders (s : String) :
    validate getenv (some (setForwarders s o)) =
      (if o.enabled ∧ o.listenTCP = "" ∧ o.listenUDP = "" then
        .error "must specify a TCP or UDP address for mesh DNS" else .ok (), some (setForwarders s o)) :=
  validate_of_forwarders getenv _ (.inl (split_ne_nil s ','))

end Validate

end Webmesh.Services.MeshDNS
