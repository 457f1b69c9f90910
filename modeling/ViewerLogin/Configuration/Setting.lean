import ViewerLogin.Grid
import ViewerLogin.Toml.Basic

/-!
# Settings of a grid

Each setting has a key of its own. A record of settings is laid over the standard grid: the
settings it gives replace the standard ones, and all others stay as they are.
-/

namespace ViewerLogin

inductive Setting where
  | simAddress
  | simPort
  | httpPort
  | regionX
  | regionY
  | regionSize
  | capabilityBase
  | mapServer
  | welcome
  | access
  | accessLimit
  | libraryOwner
  | libraryRoot
  | groupLimit
  | cloudTexture
  | sunTexture
  | moonTexture
  | categories
  deriving DecidableEq, Repr

namespace Setting

def all : List Setting := [
  .simAddress, .simPort, .httpPort, .regionX, .regionY, .regionSize, .capabilityBase,
  .mapServer, .welcome, .access, .accessLimit, .libraryOwner, .libraryRoot, .groupLimit,
  .cloudTexture, .sunTexture, .moonTexture, .categories]

theorem mem_all (setting : Setting) : setting ∈ all := by cases setting <;> decide

def key : Setting → String
  | .simAddress => "sim_ip"
  | .simPort => "sim_port"
  | .httpPort => "http_port"
  | .regionX => "region_x"
  | .regionY => "region_y"
  | .regionSize => "region_size"
  | .capabilityBase => "seed_capability_base"
  | .mapServer => "map_server_url"
  | .welcome => "welcome_message"
  | .access => "agent_access"
  | .accessLimit => "agent_access_max"
  | .libraryOwner => "library_owner"
  | .libraryRoot => "library_root"
  | .groupLimit => "max_agent_groups"
  | .cloudTexture => "cloud_texture_id"
  | .sunTexture => "sun_texture_id"
  | .moonTexture => "moon_texture_id"
  | .categories => "classified_categories"

theorem keys_nodup : (all.map key).Nodup := by decide +kernel

/-! ## Categories -/

def categoryKeys : List String := ["id", "name"]

def category? (value : Toml) : Option Category := do
  let members ← value.asRecord? categoryKeys
  return {
    id := ← Toml.required? members "id" Toml.asWord?
    name := ← Toml.required? members "name" Toml.asText? }

/-! ## Values -/

@[reducible] def Value : Setting → Type
  | .simAddress => IpAddress
  | .simPort | .httpPort => UInt16
  | .regionX | .regionY | .regionSize | .groupLimit => UInt32
  | .capabilityBase | .mapServer | .welcome => String
  | .access | .accessLimit => Maturity
  | .libraryOwner | .libraryRoot | .cloudTexture | .sunTexture | .moonTexture => Uuid
  | .categories => List Category

def read? : (setting : Setting) → Toml → Option setting.Value
  | .simAddress => Toml.asAddress?
  | .simPort | .httpPort => Toml.asWord?
  | .regionX | .regionY | .regionSize | .groupLimit => Toml.asWord?
  | .capabilityBase | .mapServer | .welcome => Toml.asText?
  | .access | .accessLimit => Toml.asMaturity?
  | .libraryOwner | .libraryRoot | .cloudTexture | .sunTexture | .moonTexture => Toml.asUuid?
  | .categories => Toml.asListOf? category?

end Setting

namespace Grid

/-! ## Settings of a grid -/

def get (grid : Grid) : (setting : Setting) → setting.Value
  | .simAddress => grid.simAddress
  | .simPort => grid.simPort
  | .httpPort => grid.httpPort
  | .regionX => grid.regionX
  | .regionY => grid.regionY
  | .regionSize => grid.regionSize
  | .capabilityBase => grid.capabilityBase
  | .mapServer => grid.mapServer
  | .welcome => grid.welcome
  | .access => grid.access
  | .accessLimit => grid.accessLimit
  | .libraryOwner => grid.libraryOwner
  | .libraryRoot => grid.libraryRoot
  | .groupLimit => grid.groupLimit
  | .cloudTexture => grid.cloudTexture
  | .sunTexture => grid.sunTexture
  | .moonTexture => grid.moonTexture
  | .categories => grid.categories

def ofSettings (value : (setting : Setting) → setting.Value) : Grid where
  simAddress := value .simAddress
  simPort := value .simPort
  httpPort := value .httpPort
  regionX := value .regionX
  regionY := value .regionY
  regionSize := value .regionSize
  capabilityBase := value .capabilityBase
  mapServer := value .mapServer
  welcome := value .welcome
  access := value .access
  accessLimit := value .accessLimit
  libraryOwner := value .libraryOwner
  libraryRoot := value .libraryRoot
  groupLimit := value .groupLimit
  cloudTexture := value .cloudTexture
  sunTexture := value .sunTexture
  moonTexture := value .moonTexture
  categories := value .categories

@[simp] theorem get_ofSettings (value : (setting : Setting) → setting.Value)
    (setting : Setting) : (ofSettings value).get setting = value setting := by
  cases setting <;> rfl

@[simp] theorem ofSettings_get (grid : Grid) : ofSettings grid.get = grid := rfl

/-! ## Records of settings -/

def settingOf? (members : List (String × Toml)) (setting : Setting) : Option setting.Value :=
  Toml.optional? members setting.key (standard.get setting) setting.read?

def ofMembers? (members : List (String × Toml)) : Option Grid :=
  if readable : ∀ setting ∈ Setting.all, (settingOf? members setting).isSome then
    some (ofSettings fun setting =>
      (settingOf? members setting).get (readable setting (Setting.mem_all setting)))
  else
    none

theorem ofMembers?_nil : ofMembers? [] = some standard := rfl

def ofToml? (value : Toml) : Option Grid :=
  (value.asRecord? (Setting.all.map Setting.key)).bind ofMembers?

end Grid

end ViewerLogin
