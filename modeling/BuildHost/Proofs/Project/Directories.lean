import BuildHost.Project.Options
import BuildHost.Proofs.Path.Spelling

/-!
# Directories of a project

A layout is made of any directories that are rooted, and holds their normal
forms (`exists_layout_eq_ok`).  The directories in the options of a project are
read from the directory of its file, which leaves them rooted and in normal form
whatever the file says (`of_mem_directories_options`), so that the layout of a
project is always there and holds them as they stand (`layout_options`).
-/

namespace BuildHost

open BuildHost.Path

variable {options : Options} {config : ProjectConfig} {dir p : Path}
  {paths : List Path}

/-! ## Layouts -/

namespace Layout

theorem exists_directory_eq_ok (field : LayoutField) (h : isRooted p = true) :
    ∃ d : Directory, directory field p = .ok d ∧ d.path = normalize p := by
  refine ⟨⟨normalize p, isRooted_normalize h, normalize_normalize p⟩, ?_, rfl⟩
  rw [directory, Directory.ofPath?, dif_pos h]

theorem exists_mapM_directory_eq_ok (field : LayoutField)
    (h : ∀ p ∈ paths, isRooted p = true) :
    ∃ dirs, paths.mapM (directory field) = .ok dirs ∧
      dirs.map Directory.path = paths.map normalize := by
  induction paths with
  | nil => exact ⟨[], rfl, rfl⟩
  | cons first rest ih =>
      rcases exists_directory_eq_ok field (h first List.mem_cons_self) with
        ⟨d, hd, hpath⟩
      rcases ih fun p hp =>
        h p (List.mem_cons_of_mem first hp) with ⟨dirs, hdirs, hpaths⟩
      refine ⟨d :: dirs, ?_, ?_⟩
      · rw [List.mapM_cons, hd, hdirs]
        rfl
      · rw [List.map_cons, List.map_cons, hpath, hpaths]

end Layout

namespace Options

/-- The directories of a build, as its options hold them. -/
def directories (options : Options) : List Path :=
  options.basePath :: options.genDir :: options.rootDirs

theorem exists_layout_eq_ok (h : ∀ p ∈ options.directories, isRooted p = true) :
    ∃ layout, options.layout = .ok layout ∧
      layout.basePath.path = normalize options.basePath ∧
      layout.genDir.path = normalize options.genDir ∧
      layout.rootDirs.map Directory.path = options.rootDirs.map normalize := by
  have hbase : isRooted options.basePath = true := h _ List.mem_cons_self
  have hgen : isRooted options.genDir = true :=
    h _ (List.mem_cons_of_mem _ List.mem_cons_self)
  have hroots : ∀ p ∈ options.rootDirs, isRooted p = true :=
    fun p hp => h p (List.mem_cons_of_mem _ (List.mem_cons_of_mem _ hp))
  rcases Layout.exists_directory_eq_ok .basePath hbase with
    ⟨basePath, hbaseok, hbasepath⟩
  rcases Layout.exists_directory_eq_ok .genDir hgen with
    ⟨genDir, hgenok, hgenpath⟩
  rcases Layout.exists_mapM_directory_eq_ok .rootDirs hroots with
    ⟨rootDirs, hrootsok, hrootpaths⟩
  refine ⟨⟨basePath, genDir, rootDirs, options.generateForLibraries⟩, ?_,
    hbasepath, hgenpath, hrootpaths⟩
  rw [layout, Layout.make, hbaseok, hgenok, hrootsok]
  rfl

end Options

/-! ## Options -/

namespace ProjectConfig

/-- Every directory in the options is that of the project or one that is read
from there. -/
theorem eq_of_mem_directories_options
    (hp : p ∈ (config.options dir).directories) :
    p = normalize dir ∨
      ∃ text : String, p = readFrom (normalize dir) text.toList := by
  have hbase : (config.options dir).basePath = normalize dir ∨
      ∃ text : String, (config.options dir).basePath
        = readFrom (normalize dir) text.toList := by
    cases htext : config.template.basePath with
    | none =>
        left
        simp only [options, htext, Option.map_none, Option.getD_none]
    | some text =>
        right
        refine ⟨text, ?_⟩
        simp only [options, htext, Option.map_some, Option.getD_some]
  rcases List.mem_cons.1 hp with rfl | hp
  · exact hbase
  rcases List.mem_cons.1 hp with rfl | hp
  · cases htext : config.template.genDir with
    | none =>
        -- generated files go to the base path
        have hgen : (config.options dir).genDir
            = (config.options dir).basePath := by
          simp only [options, htext, Option.map_none, Option.getD_none]
        rw [hgen]
        exact hbase
    | some text =>
        right
        refine ⟨text, ?_⟩
        simp only [options, htext, Option.map_some, Option.getD_some]
  · rcases List.mem_map.1 hp with ⟨text, -, rfl⟩
    exact .inr ⟨text, rfl⟩

theorem of_mem_directories_options (h : isRooted dir = true)
    (hp : p ∈ (config.options dir).directories) :
    isRooted p = true ∧ IsNormal p := by
  rcases eq_of_mem_directories_options hp with rfl | ⟨text, rfl⟩
  · exact ⟨isRooted_normalize h, normalize_normalize dir⟩
  · exact ⟨isRooted_readFrom (isRooted_normalize h) _, isNormal_readFrom _ _⟩

/-- The options do not depend on how the directory of the project is spelled. -/
theorem options_normalize (config : ProjectConfig) (dir : Path) :
    config.options (normalize dir) = config.options dir := by
  simp only [options, normalize_normalize]

/-- A project in a rooted directory has a layout, whatever its file says, and
the directories of the layout are those in its options, which are rooted and in
normal form; neither depends on how the directory of the project is spelled. -/
theorem layout_options (config : ProjectConfig) (h : isRooted dir = true) :
    (∃ layout, (config.options dir).layout = .ok layout ∧
      layout.basePath.path = (config.options dir).basePath ∧
      layout.genDir.path = (config.options dir).genDir ∧
      layout.rootDirs.map Directory.path = (config.options dir).rootDirs) ∧
    (∀ p ∈ (config.options dir).directories, isRooted p = true ∧ IsNormal p) ∧
    config.options dir = config.options (normalize dir) := by
  have hdirs : ∀ p ∈ (config.options dir).directories, isRooted p = true ∧
      IsNormal p :=
    fun p hp => of_mem_directories_options h hp
  rcases Options.exists_layout_eq_ok fun p hp => (hdirs p hp).1 with
    ⟨layout, hlayout, hbase, hgen, hroots⟩
  have hbasenormal : IsNormal (config.options dir).basePath :=
    (hdirs _ List.mem_cons_self).2
  have hgennormal : IsNormal (config.options dir).genDir :=
    (hdirs _ (List.mem_cons_of_mem _ List.mem_cons_self)).2
  have hrootsnormal : (config.options dir).rootDirs.map normalize
      = (config.options dir).rootDirs := by
    refine (List.map_congr_left ?_).trans (List.map_id _)
    intro p hp
    exact (hdirs p (List.mem_cons_of_mem _ (List.mem_cons_of_mem _ hp))).2
  refine ⟨⟨layout, hlayout, hbase.trans hbasenormal, hgen.trans hgennormal,
    hroots.trans hrootsnormal⟩, hdirs, (options_normalize config dir).symm⟩

/-- A project on a drive, with directories that climb, are empty, or lie
elsewhere. -/
def scatteredProject : ProjectConfig :=
  Draft.config
    { compiler := some ⟨none, some ["D:\\x\\..", ".", "/gen//", "E:"]⟩
      template := some (TemplateOptions.Draft.options
        { basePath := some (some "..\\src/."), genDir := some (some "") }) }

theorem layout_options_scatteredProject :
    let options := scatteredProject.options "C:\\proj\\./app".toList
    options.basePath = "C:/proj/src".toList ∧
      options.genDir = "C:/proj/app".toList ∧
      options.rootDirs
        = ["D:/".toList, "C:/proj/app".toList, "/gen".toList,
          "C:/proj/app/E:".toList] ∧
      ∃ layout, options.layout = .ok layout ∧
        layout.basePath.path = options.basePath ∧
        layout.genDir.path = options.genDir ∧
        layout.rootDirs.map Directory.path = options.rootDirs := by
  intro options
  have hdir : isRooted "C:\\proj\\./app".toList = true := by decide
  have hlayout := (layout_options scatteredProject hdir).1
  exact ⟨by decide, by decide, by decide, hlayout⟩

end ProjectConfig
end BuildHost
