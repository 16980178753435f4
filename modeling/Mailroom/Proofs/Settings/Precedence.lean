import Mailroom.Proofs.Data.Failing
import Mailroom.Proofs.Data.Lookup
import Mailroom.Settings.Basic

/-!
# Which source of a setting counts

A file of variables adds to the environment and never changes what is there. So the environment that
is left after a file has, for every variable, the value that was there or else the one that the file
declares last (`lookup_of_addFile`). Everything about precedence is read off this one fact and off
the choice of the file: a setting is a function of its variable alone.
-/

set_option autoImplicit false

namespace Mailroom

namespace Environment

/-! ## Declarations -/

theorem mem_names_declare {name x : String} {value? : Option String} {ds : Declarations}
    (h : x ∈ (declare name value? ds).map Prod.fst) : x = name ∨ x ∈ ds.map Prod.fst := by
  induction ds with
  | nil => simpa [declare] using h
  | cons d ds ih =>
    obtain ⟨n, v⟩ := d
    by_cases hn : n = name
    · right
      simpa [declare, hn] using h
    · rw [declare, if_neg hn, List.map_cons, List.mem_cons] at h
      rcases h with rfl | h
      · right
        simp
      · exact (ih h).imp_right fun h => by simp [h]

theorem nodup_declare (name : String) (value? : Option String) {ds : Declarations}
    (h : (ds.map Prod.fst).Nodup) : ((declare name value? ds).map Prod.fst).Nodup := by
  induction ds with
  | nil => simp [declare]
  | cons d ds ih =>
    obtain ⟨n, v⟩ := d
    obtain ⟨hfirst, hrest⟩ := List.nodup_cons.mp h
    by_cases hn : n = name
    · simpa [declare, hn] using h
    · rw [declare, if_neg hn, List.map_cons, List.nodup_cons]
      refine ⟨fun hmem => ?_, ih hrest⟩
      rcases mem_names_declare hmem with rfl | hmem
      · exact hn rfl
      · exact hfirst hmem

theorem nodup_addStatement (env : Environment) {ds : Declarations} (statement : EnvFile.Statement)
    (h : (ds.map Prod.fst).Nodup) : ((addStatement env ds statement).map Prod.fst).Nodup := by
  cases statement with
  | blank | unparsable => exact h
  | binding name value? =>
    cases value? with
    | none => exact nodup_declare name none h
    | some value => exact nodup_declare name _ h

theorem nodup_declarations (env : Environment) (file : List EnvFile.Statement) :
    ((env.declarations file).map Prod.fst).Nodup := by
  have hfrom : ∀ (file : List EnvFile.Statement) (ds : Declarations), (ds.map Prod.fst).Nodup →
      ((file.foldl (addStatement env) ds).map Prod.fst).Nodup := by
    intro file
    induction file with
    | nil => exact fun ds h => h
    | cons statement file ih => exact fun ds h => ih _ (nodup_addStatement env statement h)
  exact hfrom file [] .nil

/-! ## What a file adds -/

variable {env env' : Environment}

theorem lookup_of_add {name : String} {value? : Option String}
    (h : env.add name value? = .ok env') (x : String) :
    env'.lookup x = (env.lookup x).or (if x = name then value? else none) := by
  unfold add at h
  split at h
  · rename_i value hvalue
    cases h
    by_cases hx : x = name
    · simp [hx, hvalue]
    · simp [hx]
  · cases h
    simp
  · rename_i value hnone
    split at h
    · cases h
    · split at h
      · cases h
      · cases h
        rw [List.lookup_append, lookup_cons_eq_ite, List.lookup_nil]

theorem lookup_of_foldlM_add {ds : Declarations} (hds : (ds.map Prod.fst).Nodup)
    (h : ds.foldlM (fun env (name, value?) => env.add name value?) env = .ok env') (x : String) :
    env'.lookup x = (env.lookup x).or (ds.lookup x).join := by
  induction ds generalizing env with
  | nil =>
    cases h
    simp
  | cons d ds ih =>
    obtain ⟨name, value?⟩ := d
    obtain ⟨hfirst, hrest⟩ := List.nodup_cons.mp hds
    rw [List.foldlM_cons, bind_eq_ok_iff] at h
    obtain ⟨next, hadd, h⟩ := h
    rw [ih hrest h, lookup_of_add hadd]
    by_cases hx : x = name
    · subst hx
      -- a variable is declared once, so nothing behind its declaration sets it again
      have hnone : ds.lookup x = none := by
        rw [List.lookup_eq_none_iff]
        intro p hp
        rw [bne_iff_ne]
        rintro rfl
        exact hfirst (List.mem_map.mpr ⟨p, hp, rfl⟩)
      simp [hnone]
    · simp [hx, lookup_cons_eq_ite]

/-- A variable keeps its value. One that has none gets the one that the file declares, if any. -/
theorem lookup_of_addFile {file : List EnvFile.Statement} (h : env.addFile file = .ok env')
    (x : String) :
    env'.lookup x = (env.lookup x).or ((env.declarations file).lookup x).join :=
  lookup_of_foldlM_add (nodup_declarations env file) h x

end Environment

/-! ## The file that is read -/

namespace Sources

variable {s : Sources}

/-- Reading the file of variables comes to an end, and leaves this environment. -/
def Completes (s : Sources) (env : Environment) : Prop :=
  ∃ file, s.statements = .ok file ∧ s.environment.addFile file = .ok env

def NoFile (found : Files.Found) : Prop := ∀ bytes, found ≠ .file bytes

theorem fileBytes?_eq_none {found : Files.Found} (h : NoFile found) : fileBytes? found = none := by
  cases found with
  | file bytes => exact absurd rfl (h bytes)
  | directory | missing | throughFile | tooLong => rfl

theorem findSome?_eq_none {nearby : List Files.Found} (h : ∀ found ∈ nearby, NoFile found) :
    nearby.findSome? fileBytes? = none := by
  rw [List.findSome?_eq_none_iff]
  exact fun found hfound => fileBytes?_eq_none (h found hfound)

theorem fileToRead?_nearest {environment : Environment} {installation : Files.Found}
    {before after : List Files.Found} {bytes : List UInt8} (h : installation.exists = false)
    (hbefore : ∀ found ∈ before, NoFile found) :
    fileToRead? ⟨environment, installation, before ++ .file bytes :: after⟩ = some bytes := by
  have hfirst : List.findSome? fileBytes? (.file bytes :: after) = some bytes := rfl
  simp [fileToRead?, h, List.findSome?_append, findSome?_eq_none hbefore, hfirst]

theorem statements_congr {s t : Sources} (henv : s.environment = t.environment)
    (hfile : s.fileToRead? = t.fileToRead?) : s.statements = t.statements := by
  have hdisabled : s.isDisabled = t.isDisabled := by rw [isDisabled, isDisabled, henv]
  rw [statements, statements, hdisabled, hfile]

end Sources

/-! ## The settings -/

namespace Settings

open Sources

theorem load_congr {s t : Sources} (henv : s.environment = t.environment)
    (hfile : s.fileToRead? = t.fileToRead?) : load s = load t := by
  rw [load, load, statements_congr henv hfile, henv]

theorem load_of_completes {s : Sources} {env : Environment} (h : s.Completes env) :
    load s = ofEnvironment env := by
  obtain ⟨file, hfile, hadd⟩ := h
  simp only [load, hfile, hadd, bind, Except.bind]

theorem readLimit_of_lookup {env : Environment} {raw : String}
    (h : env.lookup limitVariable = some raw) :
    readLimit env = readLimit [(limitVariable, raw)] := by
  simp only [readLimit, h, List.lookup_cons_self]

theorem readLevel_of_lookup {env : Environment} {raw : String}
    (h : env.lookup levelVariable = some raw) :
    readLevel env = readLevel [(levelVariable, raw)] := by
  simp only [readLevel, h, List.lookup_cons_self]

theorem one_le_of_readLimit {env : Environment} {n : Nat} (h : readLimit env = .ok n) : 1 ≤ n := by
  unfold readLimit at h
  dsimp only at h
  split at h
  · cases h
    decide
  · split at h
    · cases h
    · split at h
      · cases h
      · cases h
        omega

theorem ofEnvironment_eq_ok_iff {env : Environment} {settings : Settings} :
    ofEnvironment env = .ok settings ↔
      readLimit env = .ok settings.cycleLimit ∧ settings.logLevel = readLevel env := by
  obtain ⟨limit, level⟩ := settings
  rw [ofEnvironment, bind_eq_ok_iff]
  constructor
  · rintro ⟨n, hn, h⟩
    cases h
    exact ⟨hn, rfl⟩
  · rintro ⟨hlimit, rfl⟩
    exact ⟨limit, hlimit, rfl⟩

theorem map_cycleLimit_ofEnvironment (env : Environment) :
    (ofEnvironment env).map cycleLimit = readLimit env := by
  rw [ofEnvironment]
  cases readLimit env <;> rfl

theorem exists_completes_of_load {s : Sources} {settings : Settings} (h : load s = .ok settings) :
    ∃ env, s.Completes env ∧ ofEnvironment env = .ok settings := by
  obtain ⟨file, hfile, h⟩ := bind_eq_ok_iff.mp h
  cases hadd : s.environment.addFile file with
  | error fault =>
    rw [hadd] at h
    cases h
  | ok env =>
    rw [hadd] at h
    exact ⟨env, ⟨file, hfile, hadd⟩, h⟩

theorem one_le_cycleLimit_of_load {s : Sources} {settings : Settings}
    (h : load s = .ok settings) : 1 ≤ settings.cycleLimit := by
  obtain ⟨env, -, h⟩ := exists_completes_of_load h
  exact one_le_of_readLimit (ofEnvironment_eq_ok_iff.mp h).1

/-- **The environment goes before files, and a near file before a far one.** If the file of
variables can be read, then every variable has the value of the environment, or the one of the file
where it has none. So a variable that is there, be it empty, settles what is set by it, or fails, as
if there were nothing but this variable. Anything in the place of the file of the installation makes
the other files count for nothing, and without it only the first file on the way up counts, or no
file at all. A cycle limit is always positive. -/
theorem load_respects_precedence :
    (∀ s env, Completes s env →
      (∃ file, s.statements = .ok file ∧ ∀ name, env.lookup name =
        (s.environment.lookup name).or ((s.environment.declarations file).lookup name).join) ∧
      load s = ofEnvironment env ∧
      (∀ raw, s.environment.lookup limitVariable = some raw →
        (load s).map cycleLimit = readLimit [(limitVariable, raw)]) ∧
      (∀ raw, s.environment.lookup levelVariable = some raw → ∀ settings,
        load s = .ok settings → settings.logLevel = readLevel [(levelVariable, raw)])) ∧
    (∀ environment installation nearby nearby', installation.exists = true →
      load ⟨environment, installation, nearby⟩ = load ⟨environment, installation, nearby'⟩) ∧
    (∀ environment installation before bytes after, installation.exists = false →
      (∀ found ∈ before, NoFile found) →
      load ⟨environment, installation, before ++ .file bytes :: after⟩ =
        load ⟨environment, .missing, [.file bytes]⟩) ∧
    (∀ environment installation nearby, installation.exists = false →
      (∀ found ∈ nearby, NoFile found) →
      load ⟨environment, installation, nearby⟩ = ofEnvironment environment) ∧
    ∀ s settings, load s = .ok settings → 1 ≤ settings.cycleLimit := by
  refine ⟨fun s env h => ?_, fun environment installation nearby nearby' hthere => ?_,
    fun environment installation before bytes after hnot hbefore => ?_,
    fun environment installation nearby hnot hnone => ?_,
    fun s settings h => one_le_cycleLimit_of_load h⟩
  · have hload := load_of_completes h
    obtain ⟨file, hfile, hadd⟩ := h
    have hlookup := Environment.lookup_of_addFile hadd
    have hkept {name raw : String} (hraw : s.environment.lookup name = some raw) :
        env.lookup name = some raw := by
      rw [hlookup, hraw, Option.some_or]
    refine ⟨⟨file, hfile, hlookup⟩, hload, fun raw hraw => ?_, fun raw hraw settings h => ?_⟩
    · rw [hload, map_cycleLimit_ofEnvironment, readLimit_of_lookup (hkept hraw)]
    · rw [hload] at h
      rw [(ofEnvironment_eq_ok_iff.mp h).2, readLevel_of_lookup (hkept hraw)]
  · exact load_congr rfl (by simp [fileToRead?, hthere])
  · have halone : fileToRead? ⟨environment, .missing, [.file bytes]⟩ = some bytes := rfl
    exact load_congr rfl ((fileToRead?_nearest hnot hbefore).trans halone.symm)
  · have hfile : fileToRead? ⟨environment, installation, nearby⟩ = none := by
      simp [fileToRead?, hnot, findSome?_eq_none hnone]
    refine load_of_completes ⟨[], ?_, rfl⟩
    simp [statements, hfile]

/-- A limit that is there but empty keeps the file from setting one, and the default counts. The
file lies above the working directory, where a directory stands in its place, and it sets the level.
With a directory in the place of the file of the installation, it sets nothing. -/
theorem load_respects_precedence_of_empty_limit :
    let bytes := ("HRM_CYCLE_LIMIT=77\nHRM_LOG_LEVEL=debug\n").toList.map fun c =>
      UInt8.ofNat c.toNat
    let sources : Sources := ⟨[(limitVariable, "")], .missing, [.directory, .file bytes, .missing]⟩
    Completes sources [(limitVariable, ""), (levelVariable, "debug")] ∧
      (load sources).map cycleLimit = .ok 1000 ∧
      load sources = load ⟨[(limitVariable, "")], .missing, [.file bytes]⟩ ∧
      load sources = .ok ⟨1000, "DEBUG"⟩ ∧
      load { sources with installation := .directory } = .ok ⟨1000, "WARNING"⟩ := by
  intro bytes sources
  obtain ⟨hsettles, hinstallation, hnearest, -⟩ := load_respects_precedence
  have hcompletes : Completes sources [(limitVariable, ""), (levelVariable, "debug")] :=
    ⟨[.binding limitVariable (some "77"), .binding levelVariable (some "debug")],
      by decide +kernel, by decide +kernel⟩
  obtain ⟨-, hload, hlimit, -⟩ := hsettles sources _ hcompletes
  refine ⟨hcompletes, (hlimit "" (by decide)).trans (by decide +kernel), ?nearest,
    hload.trans (by decide +kernel),
    (hinstallation _ .directory _ [] rfl).trans (by decide +kernel)⟩
  case nearest => exact hnearest _ .missing [.directory] bytes [.missing] rfl (by simp [NoFile])

end Settings

end Mailroom
