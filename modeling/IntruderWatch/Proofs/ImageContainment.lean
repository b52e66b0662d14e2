import IntruderWatch.Viewer
import IntruderWatch.Proofs.SessionTokens

/-!
# Served images and the captures directory

The prefix test of `serve_image` compares texts. Besides the paths below the captures directory it
lets through the directory itself and everything at or below a sibling whose name is longer than
the last name of the directory.
-/

namespace IntruderWatch.Proofs
open Py

/-! ### What `serve_image` checks -/

def ValidSegment (value : Str) : Prop :=
  value ≠ [] ∧ invalidCharacter value = false

lemma validatePathParam_eq {value : Str} {name : String} (h : ValidSegment value) :
    validatePathParam value name = .ok () := by
  rw [validatePathParam, if_neg h.1, h.2]
  rfl

lemma validatePathParam_error {value : Str} {name : String} (h : ¬ ValidSegment value) :
    ∃ detail, validatePathParam value name = .error (.http 400 detail) := by
  rw [validatePathParam]
  split_ifs with hnil hchar
  · exact ⟨_, rfl⟩
  · exact ⟨_, rfl⟩
  · exact absurd ⟨hnil, Bool.eq_false_iff.mpr hchar⟩ h

lemma raised_eq_ok {α : Type} {x : Except Exn α} {a : α} : raised x = .ok a ↔ x = .ok a := by
  cases x with
  | error e => simp [raised, Except.mapError]
  | ok b => simp [raised, Except.mapError]

section Served

variable {env : ViewerConfig} {fs : FileSystem} {camera date filename : Str} {token : Option Str}
  {request : Request} {now : Timestamp}

/-- The path of the request before links are followed. -/
def requestPath (camera date filename : Str) : PosixPath :=
  ((capturesDir.join camera).join date).join filename

/-- Names are put behind the captures directory as they are. -/
lemma requestPath_eq (hcamera : IsName camera) (hdate : IsName date) (hfilename : IsName filename) :
    requestPath camera date filename =
      ⟨[slash], [lit "app", lit "captures", camera, date, filename]⟩ := by
  have hcaptures : capturesDir = ⟨[slash], [lit "app", lit "captures"]⟩ := by decide
  have happ : IsName (lit "app") := ⟨by decide, by decide, by decide⟩
  have hname : IsName (lit "captures") := ⟨by decide, by decide, by decide⟩
  rw [requestPath, hcaptures, join_name (by simp [happ, hname]) hcamera,
    join_name (by simp [happ, hname, hcamera]) hdate,
    join_name (by simp [happ, hname, hcamera, hdate]) hfilename]
  rfl

lemma checkImagePath_ok_iff {path : ResolvedPath} :
    checkImagePath fs camera date filename = .ok path ↔
      fs.resolve (requestPath camera date filename) = .ok path ∧
        ∃ base, fs.resolve capturesDir = .ok base ∧ base.text <+: path.text ∧
          fs.pathExists path.toPosixPath = true ∧ fs.isFile path.toPosixPath = true := by
  have hstarts : ∀ base : ResolvedPath,
      base.text.isPrefixOf path.text = true ↔ base.text <+: path.text :=
    fun _ => List.isPrefixOf_iff_prefix
  rw [checkImagePath, ← requestPath, bind_eq_ok]
  constructor
  · rintro ⟨imagePath, himage, h⟩
    obtain ⟨base, hbase, h⟩ := bind_eq_ok.mp h
    split_ifs at h with hbelow hfile
    obtain rfl := Except.ok.inj h
    rw [raised_eq_ok] at himage hbase
    simp only [Bool.not_eq_true', Bool.not_eq_false, hstarts] at hbelow
    simp only [Bool.or_eq_true, Bool.not_eq_true', not_or, Bool.not_eq_false] at hfile
    exact ⟨himage, base, hbase, hbelow, hfile⟩
  · rintro ⟨himage, base, hbase, hpre, hexists, hfile⟩
    refine ⟨path, raised_eq_ok.mpr himage, bind_eq_ok.mpr ⟨base, raised_eq_ok.mpr hbase, ?_⟩⟩
    simp [(hstarts base).mpr hpre, hexists, hfile]

/-- The request has valid path parameters and a credential. -/
structure Admitted (env : ViewerConfig) (camera date filename : Str) (token : Option Str)
    (request : Request) (now : Timestamp) : Prop where
  camera : ValidSegment camera
  date : ValidSegment date
  filename : ValidSegment filename
  credential : env.imageAuthenticated token request now = true

lemma serveImage_admitted (h : Admitted env camera date filename token request now) :
    env.serveImage fs camera date filename token request now =
      match checkImagePath fs camera date filename with
      | .ok imagePath => .ok (.file imagePath)
      | .error (.http status detail) => .error (.http status detail)
      | .error (.exn _) => .error (.http 400 "Invalid path request") := by
  unfold ViewerConfig.serveImage
  rw [validatePathParam_eq h.camera, validatePathParam_eq h.date, validatePathParam_eq h.filename,
    h.credential]
  rfl

/-- Without admission the answer does not depend on the file system. -/
lemma serveImage_refused (h : ¬ Admitted env camera date filename token request now) :
    ∃ status detail, ∀ fs, env.serveImage fs camera date filename token request now =
      .error (.http status detail) := by
  unfold ViewerConfig.serveImage
  by_cases hcamera : ValidSegment camera
  · by_cases hdate : ValidSegment date
    · by_cases hfilename : ValidSegment filename
      · have hcredential : env.imageAuthenticated token request now = false :=
          Bool.eq_false_iff.mpr (fun hc => h ⟨hcamera, hdate, hfilename, hc⟩)
        rw [validatePathParam_eq hcamera, validatePathParam_eq hdate,
          validatePathParam_eq hfilename, hcredential]
        exact ⟨401, _, fun _ => rfl⟩
      · obtain ⟨detail, hdetail⟩ := @validatePathParam_error filename "filename" hfilename
        rw [validatePathParam_eq hcamera, validatePathParam_eq hdate, hdetail]
        exact ⟨400, detail, fun _ => rfl⟩
    · obtain ⟨detail, hdetail⟩ := @validatePathParam_error date "date" hdate
      rw [validatePathParam_eq hcamera, hdetail]
      exact ⟨400, detail, fun _ => rfl⟩
  · obtain ⟨detail, hdetail⟩ := @validatePathParam_error camera "camera" hcamera
    rw [hdetail]
    exact ⟨400, detail, fun _ => rfl⟩

lemma serveImage_file_iff {path : ResolvedPath} :
    env.serveImage fs camera date filename token request now = .ok (.file path) ↔
      Admitted env camera date filename token request now ∧
        checkImagePath fs camera date filename = .ok path := by
  by_cases h : Admitted env camera date filename token request now
  · rw [serveImage_admitted h, and_iff_right h]
    cases checkImagePath fs camera date filename with
    | ok imagePath => simp
    | error e => cases e <;> simp
  · obtain ⟨status, detail, hrefused⟩ := @serveImage_refused env _ _ _ _ _ _ h
    rw [hrefused]
    simp [h]

/-- The path is a proper descendant of the resolved captures directory. -/
def InsideCaptures (fs : FileSystem) (path : ResolvedPath) : Prop :=
  ∃ base, fs.resolve capturesDir = .ok base ∧ path.ProperDescendant base

/-- The requested image resolves to a file that is the captures directory itself, or at or below a
sibling of it with a longer name. -/
def EscapesCaptures (fs : FileSystem) (camera date filename : Str) : Prop :=
  ∃ path base, fs.resolve (requestPath camera date filename) = .ok path ∧
    fs.resolve capturesDir = .ok base ∧ fs.pathExists path.toPosixPath = true ∧
    fs.isFile path.toPosixPath = true ∧
    (path.parts = base.parts ∨ LongerName path.parts base.parts)

/-- Whatever is served lies below the captures directory, or is one of the two exceptions. -/
lemma checkImagePath_below_or {path : ResolvedPath}
    (h : checkImagePath fs camera date filename = .ok path) :
    InsideCaptures fs path ∨ EscapesCaptures fs camera date filename := by
  obtain ⟨hpath, base, hbase, hpre, hexists, hfile⟩ := checkImagePath_ok_iff.mp h
  rcases (path.text_prefix_iff base).mp hpre with hparts | hlonger
  · rcases (path.prefix_iff_descendant base).mp hparts with hsame | hbelow
    · exact Or.inr ⟨path, base, hpath, hbase, hexists, hfile, Or.inl hsame⟩
    · exact Or.inl ⟨base, hbase, hbelow⟩
  · exact Or.inr ⟨path, base, hpath, hbase, hexists, hfile, Or.inr hlonger⟩

lemma EscapesCaptures.served (h : EscapesCaptures fs camera date filename) :
    ∃ path, checkImagePath fs camera date filename = .ok path ∧ ¬ InsideCaptures fs path := by
  obtain ⟨path, base, hpath, hbase, hexists, hfile, hwhere⟩ := h
  have hpre : base.text <+: path.text := by
    apply (path.text_prefix_iff base).mpr
    apply hwhere.imp_left
    intro hsame
    rw [hsame]
  refine ⟨path, checkImagePath_ok_iff.mpr ⟨hpath, base, hbase, hpre, hexists, hfile⟩, ?_⟩
  rintro ⟨base', hbase', hbelow⟩
  obtain rfl : base = base' := Except.ok.inj (hbase.symm.trans hbase')
  rcases hwhere with hsame | hlonger
  · exact ResolvedPath.not_properDescendant_self hsame hbelow
  · exact ResolvedPath.not_properDescendant_of_longerName hlonger hbelow

end Served

/-! ### The guarantee -/

/-- A served file lies inside the captures directory exactly unless an admitted request resolves to
the directory itself or into a sibling with a longer name. -/
theorem served_inside_iff (env : ViewerConfig) (fs : FileSystem) (camera date filename : Str)
    (token : Option Str) (request : Request) (now : Timestamp) :
    (∀ path, env.serveImage fs camera date filename token request now = .ok (.file path) →
        InsideCaptures fs path) ↔
      ¬ (Admitted env camera date filename token request now ∧
        EscapesCaptures fs camera date filename) := by
  constructor
  · rintro hinside ⟨hadmitted, hescapes⟩
    obtain ⟨path, hserved, houtside⟩ := hescapes.served
    exact houtside (hinside path (serveImage_file_iff.mpr ⟨hadmitted, hserved⟩))
  · intro hnot path hserved
    obtain ⟨hadmitted, hpath⟩ := serveImage_file_iff.mp hserved
    apply (checkImagePath_below_or hpath).resolve_right
    intro hescapes
    exact hnot ⟨hadmitted, hescapes⟩

def capturesBase : ResolvedPath where
  toPosixPath := capturesDir
  rooted := by decide
  named := by decide

/-- A picture in a backup beside the captures. -/
def backupImage : ResolvedPath where
  root := [slash]
  parts := [lit "app", lit "captures_old", lit "2026-10-01", lit "a.jpg"]
  rooted := rfl
  named := by decide

/-- A date folder of camera 1 is a link into the backup. -/
def linkedFs : FileSystem where
  resolve := fun p =>
    if p = capturesDir then .ok capturesBase
    else if p = requestPath (lit "camera_1") (lit "2026-10-01") (lit "a.jpg") then .ok backupImage
    else .error .osError
  pathExists := fun p => p = capturesDir ∨ p = backupImage.toPosixPath
  isFile := fun p => p = backupImage.toPosixPath
  isDir := fun p => p = capturesDir
  iterdir := fun _ => .ok []
  mtime := fun _ => .ok 0
  content := fun _ => .ok [255, 216]

def tokenConfig : ViewerConfig where
  toViewerEnv := adminEnv
  alertBypassToken := some (lit "bypass")

/-- The alert token fetches the picture in the backup. -/
theorem backup_image_served : ∃ path,
    tokenConfig.serveImage linkedFs (lit "camera_1") (lit "2026-10-01") (lit "a.jpg")
      (some (lit "bypass")) ⟨none, none⟩ timeZero = .ok (.file path) ∧
    ¬ InsideCaptures linkedFs path := by
  have hadmitted : Admitted tokenConfig (lit "camera_1") (lit "2026-10-01") (lit "a.jpg")
      (some (lit "bypass")) ⟨none, none⟩ timeZero :=
    ⟨⟨by decide, by decide⟩, ⟨by decide, by decide⟩, ⟨by decide, by decide⟩, by decide⟩
  have hescapes : EscapesCaptures linkedFs (lit "camera_1") (lit "2026-10-01") (lit "a.jpg") := by
    refine ⟨backupImage, capturesBase, by rfl, by rfl, by decide, by decide, Or.inr ?_⟩
    exact ⟨[lit "app"], lit "captures", lit "_old", [lit "2026-10-01", lit "a.jpg"],
      by decide, by decide, by decide⟩
  obtain ⟨path, hserved, houtside⟩ := hescapes.served
  exact ⟨path, serveImage_file_iff.mpr ⟨hadmitted, hserved⟩, houtside⟩

end IntruderWatch.Proofs
