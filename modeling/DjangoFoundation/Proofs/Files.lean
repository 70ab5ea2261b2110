/-
A file that is not pending is in the storage, with the content that was checked.

The storage and the table are written one after the other, and a cleanup works from rows it
read some time ago.  What keeps them together is that a cleanup selects pending rows alone,
that no row has the path of another, and that a path is never drawn again: a file is deleted
only under the path of a row that was selected, and as long as that row stays pending nobody
relies on it.

Only the storage and the row are followed.  What a scanner makes of a file is a parameter, and
so is what the inspection of its content finds, since both are outside the repository.
-/
import DjangoFoundation.Database
import DjangoFoundation.Files.Services

namespace DjangoFoundation.Files

open Run

variable {inspection : Inspection} {settings : FileSettings} {now : Int} {s s' : State}

/-! ### What is accepted

The validator raises at the first check that fails.  Where it returns, all of them have passed,
and the file has been rewound, so that what is written is what was looked at.
-/

/-- What a row says of a content. -/
structure Describes (inspection : Inspection) (row : StoredFile) (content : List UInt8) : Prop where
  contentType : row.contentType =
    (inspection.guess (content.take 262144)).getD "application/octet-stream"
  size : row.size = content.length
  checksum : row.checksumSha256 = inspection.sha256 content

/-- The type a validator finds. -/
def detectedMime (inspection : Inspection) (upload : UploadedFile) : String :=
  (inspection.guess ((upload.content.drop upload.position).take
    (min upload.size 262144))).getD "application/octet-stream"

/-- What a validator asks of an upload. -/
structure Accepted (inspection : Inspection) (settings : FileSettings)
    (validator : SecureFileValidator) (upload : UploadedFile) : Prop where
  extension : bare inspection.unicode (suffix upload.name.toList) ∈ validator.allowedExtensions
  size : upload.size ≤ validator.maxSize
  contentType : detectedMime inspection upload ∈ validator.allowedMimeTypes
  image : (detectedMime inspection upload).startsWith "image/" = true →
    ∃ image, inspection.openImage upload.content = .ok image ∧
      image.width * image.height ≤ settings.maxImagePixels ∧ image.verify = .ok ()
  scanned : validator.scan upload.rewind = .ok ()

theorem checkImage_eq_ok {content : List UInt8}
    (h : SecureFileValidator.checkImage inspection settings content = .ok ()) :
    ∃ image, inspection.openImage content = .ok image ∧
      image.width * image.height ≤ settings.maxImagePixels ∧ image.verify = .ok () := by
  unfold SecureFileValidator.checkImage at h
  dsimp only at h
  split at h
  · cases h
  · cases h
  · rename_i image hopen
    split at h
    · cases h
    · rename_i hpixels
      split at h
      · rename_i hverify
        exact ⟨image, hopen, Nat.le_of_not_lt hpixels, hverify⟩
      · cases h
      · cases h

theorem call_eq_ok {validator : SecureFileValidator} {upload upload' : UploadedFile}
    {metadata : SecureFileValidator.Metadata}
    (h : validator.call inspection settings upload = .ok (metadata, upload')) :
    Accepted inspection settings validator upload ∧ upload' = upload.rewind ∧ metadata = {
      contentType := detectedMime inspection upload
      size := upload.size
      checksumSha256 := inspection.sha256 upload.content } := by
  unfold SecureFileValidator.call at h
  by_cases hextension :
      bare inspection.unicode (suffix upload.name.toList) ∈ validator.allowedExtensions
  swap
  · simp only [hextension, not_false_eq_true, if_true] at h
    cases h
  by_cases hsize : upload.size > validator.maxSize
  · simp only [hextension, not_true_eq_false, if_false, hsize, if_true] at h
    cases h
  simp only [hextension, not_true_eq_false, if_false, hsize] at h
  split at h
  · cases h
  rename_i htype
  split at h
  · obtain ⟨_, himage, h⟩ := bind_eq_ok.mp h
    obtain ⟨_, hscan, h⟩ := bind_eq_ok.mp h
    cases h
    exact ⟨⟨hextension, Nat.le_of_not_lt hsize, not_not.mp htype, fun _ => checkImage_eq_ok himage,
      hscan⟩, rfl, rfl⟩
  · rename_i hplain
    obtain ⟨_, hscan, h⟩ := bind_eq_ok.mp h
    cases h
    exact ⟨⟨hextension, Nat.le_of_not_lt hsize, not_not.mp htype,
      fun himage => absurd himage hplain, hscan⟩, rfl, rfl⟩

/-- A new row says of the upload what is so. -/
theorem describes_storedFile {validator : SecureFileValidator} {upload upload' : UploadedFile}
    {metadata : SecureFileValidator.Metadata} (owner : Option UUID) (pk drawn : UUID)
    (hposition : upload.position = 0)
    (h : validator.call inspection settings upload = .ok (metadata, upload')) :
    Describes inspection (storedFile inspection now owner upload' metadata pk drawn)
        upload'.content := by
  obtain ⟨_, rfl, rfl⟩ := call_eq_ok h
  refine ⟨?_, rfl, rfl⟩
  show (inspection.guess _).getD _ = _
  rw [hposition, List.drop_zero, Nat.min_comm, UploadedFile.size, ← List.take_eq_take_min]
  rfl

/-! ### Extensions

The validator asks `Path.suffix` for the extension, and `secure_upload_path` splits at the last
dot.  The two disagree where the last dot is the first or the last character of a name, and
there the validator sees no extension at all.
-/

theorem rsplitDot_eq_none {name : List Char} (h : rsplitDot name = none) : '.' ∉ name := by
  induction name with
  | nil => exact List.not_mem_nil
  | cons c name ih =>
      unfold rsplitDot at h
      cases hname : rsplitDot name with
      | some parts =>
          rw [hname] at h
          cases h
      | none =>
          rw [hname] at h
          dsimp only at h
          split at h
          · cases h
          · rename_i hne
            intro hmem
            rcases List.mem_cons.mp hmem with heq | hmem
            · exact hne heq.symm
            · exact ih hname hmem

/-- The last part has no dot. -/
theorem rsplitDot_eq_some {name stem extension : List Char}
    (h : rsplitDot name = some (stem, extension)) : '.' ∉ extension := by
  induction name generalizing stem with
  | nil => cases h
  | cons c name ih =>
      unfold rsplitDot at h
      cases hname : rsplitDot name with
      | some parts =>
          rw [hname] at h
          cases h
          exact ih hname
      | none =>
          rw [hname] at h
          dsimp only at h
          split at h
          · cases h
            exact rsplitDot_eq_none hname
          · cases h

theorem dot_of_toLower {c : Char} (hascii : Unicode.isAscii c = true) (h : c.toLower = '.') :
    c = '.' := by
  have hall : ∀ n < 128, (Char.ofNat n).toLower = '.' → Char.ofNat n = '.' := by decide
  have hlt : c.toNat < 128 := of_decide_eq_true hascii
  have hc := hall c.toNat hlt
  rw [Char.ofNat_toNat] at hc
  exact hc h

theorem dot_not_mem_lower {unicode : Unicode}
    (hdot : ∀ c, Unicode.isAscii c = false → '.' ∉ unicode.lowerTable c)
    {text : List Char} (h : '.' ∉ text) : '.' ∉ unicode.lower text := by
  intro hmem
  obtain ⟨c, hc, hlower⟩ := List.mem_flatMap.mp hmem
  unfold Unicode.charLower at hlower
  split at hlower
  · rename_i hascii
    exact h (dot_of_toLower hascii (List.mem_singleton.mp hlower).symm ▸ hc)
  · rename_i hascii
    exact hdot c (Bool.eq_false_iff.mpr hascii) hlower

theorem lower_dot (unicode : Unicode) (text : List Char) :
    unicode.lower ('.' :: text) = '.' :: unicode.lower text := rfl

/-- A path gets the extension that was checked, where there is one. -/
theorem uploadExtension_eq {unicode : Unicode}
    (hdot : ∀ c, Unicode.isAscii c = false → '.' ∉ unicode.lowerTable c)
    {name : String} (h : suffix name.toList ≠ []) :
    uploadExtension unicode name = bare unicode (suffix name.toList) := by
  unfold suffix at h ⊢
  unfold uploadExtension
  cases hsplit : rsplitDot name.toList with
  | none =>
      rw [hsplit] at h
      exact absurd rfl h
  | some parts =>
      obtain ⟨stem, extension⟩ := parts
      rw [hsplit] at h
      dsimp only at h ⊢
      split at h
      · exact absurd rfl h
      · rename_i hparts
        rw [if_neg hparts, bare, lower_dot, List.dropWhile_cons_of_pos (by decide)]
        have hnone := dot_not_mem_lower hdot (rsplitDot_eq_some hsplit)
        cases hlower : unicode.lower extension with
        | nil => rfl
        | cons c text =>
            rw [List.dropWhile_cons_of_neg]
            rw [decide_eq_true_eq]
            rintro rfl
            rw [hlower] at hnone
            exact hnone List.mem_cons_self

/-- **What is stored has passed every check, and its path is made with the extension that was
checked.**  That a dotfile or a name that ends in a dot has an extension to the path and none to
the validator makes no difference, unless no extension at all is allowed too. -/
theorem accepted_upload {validator : SecureFileValidator} {upload upload' : UploadedFile}
    {metadata : SecureFileValidator.Metadata}
    (hdot : ∀ c, Unicode.isAscii c = false → '.' ∉ inspection.unicode.lowerTable c)
    (hempty : [] ∉ validator.allowedExtensions)
    (h : validator.call inspection settings upload = .ok (metadata, upload')) :
    Accepted inspection settings validator upload ∧ upload' = upload.rewind ∧
      ∃ extension ∈ validator.allowedExtensions, ∀ owner drawn,
        secureUploadPath inspection.unicode owner upload.name drawn =
          "uploads/" ++ (owner.map UUID.str).getD "system" ++ "/" ++ UUID.hex drawn ++ "." ++
            String.ofList extension := by
  obtain ⟨haccepted, hupload, _⟩ := call_eq_ok h
  have hsuffix : suffix upload.name.toList ≠ [] := by
    intro hnone
    have hmem := haccepted.extension
    rw [hnone] at hmem
    exact hempty hmem
  refine ⟨haccepted, hupload, _, haccepted.extension, fun owner drawn => ?_⟩
  rw [secureUploadPath, uploadExtension_eq hdot hsuffix]

/-- What the packages say of the text `hi`. -/
def Inspection.plain : Inspection where
  unicode := Environment.plain.unicode
  guess _ := none
  openImage _ := .error .unreadable
  sha256 content :=
    if content = [104, 105] then
      "8f434346648f6b96df89dda901c5176b10a6d83961dd3c1ac88b59b2dc327aa4"
    else ""
  generateFilename path := String.ofList (path.toList.filter fun c =>
    c.isAlphanum || c ∈ ['_', '-', '.', '/'])

def smallFiles : FileSettings where
  maxUploadSize := 10
  maxImagePixels := 100
  fileRetentionDays := 7

def textFiles : SecureFileValidator :=
  .init .plain smallFiles [".txt"] ["application/octet-stream"] none none

def hi : UploadedFile := { name := "hi.TXT", content := [104, 105] }

theorem accepted_upload_hi : ∃ metadata upload',
    textFiles.call .plain smallFiles hi = .ok (metadata, upload') ∧
      Accepted .plain smallFiles textFiles hi ∧ upload' = hi.rewind ∧
      ∃ extension ∈ textFiles.allowedExtensions, ∀ owner drawn,
        secureUploadPath Inspection.plain.unicode owner hi.name drawn =
          "uploads/" ++ (owner.map UUID.str).getD "system" ++ "/" ++ UUID.hex drawn ++ "." ++
            String.ofList extension := by
  have hdot : ∀ c, Unicode.isAscii c = false → '.' ∉ Inspection.plain.unicode.lowerTable c := by
    intro c hascii hmem
    obtain rfl : '.' = c := List.mem_singleton.mp hmem
    cases hascii
  have hok : (textFiles.call .plain smallFiles hi).isOk = true := by decide +kernel
  match h : textFiles.call .plain smallFiles hi, hok with
  | .ok (metadata, upload'), _ =>
      exact ⟨metadata, upload', rfl, accepted_upload hdot (by decide) h⟩

/-! ### The invariant

The storage takes no part in transactions, so at any moment there may be files without rows and
rows whose file is gone.  The invariant is about rows that no cleanup has selected; for those
selected it keeps what the cleanup still relies on.
-/

/-- The file of the row is in the storage, as the row describes it. -/
def Intact (inspection : Inspection) (s : State) (row : StoredFile) : Prop :=
  ∃ blob, s.storage.get? row.file = some blob ∧ Describes inspection row blob.content

structure Inv (inspection : Inspection) (s : State) : Prop where
  paths : ∀ row ∈ s.rows, row.file ∈ s.paths
  keys : ∀ row ∈ s.rows, row.pk ∈ s.keys
  unique : ∀ row ∈ s.rows, ∀ other ∈ s.rows, row.file = other.file → row.pk = other.pk
  /-- A copy is of a row that was selected, and its path is no other row's. -/
  copies : ∀ cleanup ∈ s.cleanups, ∀ copy ∈ cleanup.files, copy.file ∈ s.paths ∧
    copy.pk ∈ s.selected ∧ ∀ row ∈ s.rows, row.file = copy.file → row.pk = copy.pk
  selectedKeys : ∀ pk ∈ s.selected, pk ∈ s.keys
  pending : ∀ row ∈ s.rows, row.pk ∈ s.selected → row.status = .pending
  intact : ∀ row ∈ s.rows, row.pk ∉ s.selected → row.deletedAt = none ∧ Intact inspection s row

theorem inv_init (inspection : Inspection) : Inv inspection {} where
  paths _ h := absurd h (Table.not_mem_empty _)
  keys _ h := absurd h (Table.not_mem_empty _)
  unique _ h := absurd h (Table.not_mem_empty _)
  copies _ h := absurd h (Table.not_mem_empty _)
  selectedKeys _ h := absurd h List.not_mem_nil
  pending _ h := absurd h (Table.not_mem_empty _)
  intact _ h := absurd h (Table.not_mem_empty _)

/-- What may become of a row: of one that was selected not the status, and of another nothing
but the status, is changed. -/
structure Kept (selected : List UUID) (row row' : StoredFile) : Prop where
  pk : row'.pk = row.pk
  file : row'.file = row.file
  status : row.pk ∈ selected → row'.status = row.status
  rest : row.pk ∉ selected → row' = { row with status := row'.status }

theorem Kept.refl (selected : List UUID) (row : StoredFile) : Kept selected row row :=
  ⟨rfl, rfl, fun _ => rfl, fun _ => rfl⟩

/-- Rows are kept or gone, and cleanups have no copies they had not before. -/
theorem Inv.kept (h : Inv inspection s) {rows : Table StoredFile} {cleanups : Table CleanupRun}
    (hrows : ∀ row' ∈ rows, ∃ row ∈ s.rows, Kept s.selected row row')
    (hcleanups : ∀ cleanup ∈ cleanups, ∃ old ∈ s.cleanups, ∀ copy ∈ cleanup.files,
      copy ∈ old.files) :
    Inv inspection { s with rows := rows, cleanups := cleanups } where
  paths row' hrow' := by
    obtain ⟨row, hrow, hkept⟩ := hrows row' hrow'
    exact hkept.file ▸ h.paths row hrow
  keys row' hrow' := by
    obtain ⟨row, hrow, hkept⟩ := hrows row' hrow'
    exact hkept.pk ▸ h.keys row hrow
  unique row' hrow' other' hother' hfile := by
    obtain ⟨row, hrow, hkept⟩ := hrows row' hrow'
    obtain ⟨other, hother, hkept'⟩ := hrows other' hother'
    rw [hkept.file, hkept'.file] at hfile
    rw [hkept.pk, hkept'.pk]
    exact h.unique row hrow other hother hfile
  copies cleanup hcleanup copy hcopy := by
    obtain ⟨old, hold, hfiles⟩ := hcleanups cleanup hcleanup
    obtain ⟨hpath, hselected, hother⟩ := h.copies old hold copy (hfiles copy hcopy)
    refine ⟨hpath, hselected, fun row' hrow' hfile => ?_⟩
    obtain ⟨row, hrow, hkept⟩ := hrows row' hrow'
    rw [hkept.file] at hfile
    exact hkept.pk.trans (hother row hrow hfile)
  selectedKeys := h.selectedKeys
  pending row' hrow' hselected := by
    obtain ⟨row, hrow, hkept⟩ := hrows row' hrow'
    have hmem : row.pk ∈ s.selected := hkept.pk ▸ hselected
    rw [hkept.status hmem]
    exact h.pending row hrow hmem
  intact row' hrow' hselected := by
    obtain ⟨row, hrow, hkept⟩ := hrows row' hrow'
    have hnot : row.pk ∉ s.selected := fun hmem => hselected (hkept.pk ▸ hmem)
    obtain ⟨hdeleted, blob, hblob, hdescribes⟩ := h.intact row hrow hnot
    rw [hkept.rest hnot]
    exact ⟨hdeleted, blob, hblob, hdescribes.contentType, hdescribes.size, hdescribes.checksum⟩

/-! ### Steps

A cleanup works through copies.  What makes that safe is that paths are not drawn twice, and
that a row once selected is pending as long as its status is left alone.
-/

theorem Inv.setStatus (h : Inv inspection s) {pk : UUID} (hspares : pk ∉ s.selected)
    (status : FileStatus) :
    Inv inspection { s with
      rows := s.rows.modify pk (fun row => { row with status := status })
        fun row => status_pk row status } := by
  refine h.kept (fun row' hrow' => ?_) fun cleanup hcleanup => ⟨cleanup, hcleanup, fun _ hc => hc⟩
  rcases Table.mem_modify.mp hrow' with ⟨row, hrow, hpk, rfl⟩ | ⟨hold, _⟩
  · refine ⟨row, hrow, rfl, rfl, fun hmem => ?_, fun _ => rfl⟩
    have hsame : row.pk = pk := hpk
    exact absurd (hsame ▸ hmem) hspares
  · exact ⟨row', hold, .refl _ _⟩

theorem Inv.delete (h : Inv inspection s) (pk : UUID) :
    Inv inspection { s with rows := s.rows.erase pk } :=
  h.kept (fun row hrow => ⟨row, (Table.mem_erase.mp hrow).1, .refl _ _⟩)
    fun cleanup hcleanup => ⟨cleanup, hcleanup, fun _ hc => hc⟩

theorem Inv.eraseCleanup (h : Inv inspection s) (worker : Nat) :
    Inv inspection { s with cleanups := s.cleanups.erase worker } :=
  h.kept (fun row hrow => ⟨row, hrow, .refl _ _⟩)
    fun cleanup hcleanup => ⟨cleanup, (Table.mem_erase.mp hcleanup).1, fun _ hc => hc⟩

/-- A cleanup selects pending rows, and takes copies of them. -/
theorem Inv.cleanup (h : Inv inspection s) {worker : Nat} {cleanups : Table CleanupRun}
    (hinsert : s.cleanups.insert? { worker := worker, files := unused settings now s } =
      some cleanups) :
    Inv inspection { s with
      cleanups := cleanups
      selected := (unused settings now s).map StoredFile.pk ++ s.selected } := by
  have hunused : ∀ row ∈ unused settings now s, row ∈ s.rows ∧ row.status = .pending := by
    intro row hrow
    obtain ⟨hmem, hyes⟩ := List.mem_filter.mp hrow
    exact ⟨hmem, (of_decide_eq_true hyes).1⟩
  refine ⟨h.paths, h.keys, h.unique, fun cleanup hcleanup copy hcopy => ?_, fun pk hpk => ?_,
    fun row hrow hselected => ?_, fun row hrow hselected => ?_⟩
  · rcases (Table.mem_insert? hinsert).mp hcleanup with hold | rfl
    · obtain ⟨hpath, hselected, hother⟩ := h.copies cleanup hold copy hcopy
      exact ⟨hpath, List.mem_append_right _ hselected, hother⟩
    · have hrow := (hunused copy hcopy).1
      exact ⟨h.paths copy hrow, List.mem_append_left _ (List.mem_map_of_mem hcopy),
        fun row hrow' => h.unique row hrow' copy hrow⟩
  · rcases List.mem_append.mp hpk with hnew | hold
    · obtain ⟨row, hrow, rfl⟩ := List.mem_map.mp hnew
      exact h.keys row (hunused row hrow).1
    · exact h.selectedKeys pk hold
  · rcases List.mem_append.mp hselected with hnew | hold
    · obtain ⟨copy, hcopy, hpk⟩ := List.mem_map.mp hnew
      obtain ⟨hmem, hpending⟩ := hunused copy hcopy
      exact Table.eq_of_pk_eq hmem hrow hpk ▸ hpending
    · exact h.pending row hrow hold
  · exact h.intact row hrow fun hmem => hselected (List.mem_append_right _ hmem)

/-- What is deleted is the file of a row that was selected. -/
theorem Inv.deleteFile (h : Inv inspection s) {worker : Nat} {copy : StoredFile}
    {copies : List StoredFile} {fileDeleted : Bool}
    (hget : s.cleanups.get? worker = some ⟨worker, copy :: copies, fileDeleted⟩) :
    Inv inspection { s with
      storage := s.storage.erase copy.file
      cleanups := s.cleanups.put ⟨worker, copy :: copies, true⟩ } := by
  have hmem := Table.mem_of_get? hget
  refine ⟨h.paths, h.keys, h.unique, fun cleanup hcleanup copy' hcopy' => ?_, h.selectedKeys,
    h.pending, fun row hrow hselected => ?_⟩
  · rcases Table.mem_put.mp hcleanup with rfl | ⟨hold, _⟩
    · exact h.copies _ hmem copy' hcopy'
    · exact h.copies cleanup hold copy' hcopy'
  · obtain ⟨hdeleted, blob, hblob, hdescribes⟩ := h.intact row hrow hselected
    obtain ⟨_, hcopy, hother⟩ := h.copies _ hmem copy List.mem_cons_self
    refine ⟨hdeleted, blob, ?_, hdescribes⟩
    have hne : row.file ≠ copy.file := fun hfile => hselected (hother row hrow hfile ▸ hcopy)
    show (s.storage.erase copy.file).get? row.file = some blob
    rw [Table.get?_erase, if_neg hne, hblob]

theorem Inv.saveDeleted (h : Inv inspection s) {worker : Nat} {copy : StoredFile}
    {copies : List StoredFile} {fileDeleted : Bool}
    (hget : s.cleanups.get? worker = some ⟨worker, copy :: copies, fileDeleted⟩) :
    Inv inspection { s with
      rows := s.rows.modify copy.pk (fun row => { row with deletedAt := some now })
        fun row => deleted_pk row (some now)
      cleanups := s.cleanups.put ⟨worker, copies, false⟩ } := by
  have hmem := Table.mem_of_get? hget
  refine h.kept (fun row' hrow' => ?_) fun cleanup hcleanup => ?_
  · rcases Table.mem_modify.mp hrow' with ⟨row, hrow, hpk, rfl⟩ | ⟨hold, _⟩
    · refine ⟨row, hrow, rfl, rfl, fun _ => rfl, fun hnot => ?_⟩
      have hsame : row.pk = copy.pk := hpk
      exact absurd (hsame ▸ (h.copies _ hmem copy List.mem_cons_self).2.1) hnot
    · exact ⟨row', hold, .refl _ _⟩
  · rcases Table.mem_put.mp hcleanup with rfl | ⟨hold, _⟩
    · exact ⟨_, hmem, fun copy' hcopy' => List.mem_cons_of_mem _ hcopy'⟩
    · exact ⟨cleanup, hold, fun _ hc => hc⟩

/-- A file is written under a path nobody has. -/
theorem Inv.write (h : Inv inspection s) {blob : Blob} (hpath : blob.path ∉ s.paths) (pk : UUID) :
    Inv inspection { s with
      storage := s.storage.put blob
      paths := blob.path :: s.paths
      keys := pk :: s.keys } := by
  refine ⟨fun row hrow => List.mem_cons_of_mem _ (h.paths row hrow),
    fun row hrow => List.mem_cons_of_mem _ (h.keys row hrow), h.unique,
    fun cleanup hcleanup copy hcopy => ?_,
    fun pk hpk => List.mem_cons_of_mem _ (h.selectedKeys pk hpk), h.pending,
    fun row hrow hselected => ?_⟩
  · obtain ⟨hold, hselected, hother⟩ := h.copies cleanup hcleanup copy hcopy
    exact ⟨List.mem_cons_of_mem _ hold, hselected, hother⟩
  · obtain ⟨hdeleted, old, hold, hdescribes⟩ := h.intact row hrow hselected
    refine ⟨hdeleted, old, ?_, hdescribes⟩
    have hne : blob.path ≠ row.file := fun hsame => hpath (hsame ▸ h.paths row hrow)
    show (s.storage.put blob).get? row.file = some old
    rw [Table.get?_put, if_neg (show ¬Keyed.pk blob = row.file from hne), hold]

/-- A row comes with a key of its own, and with the only file of its path. -/
theorem Inv.insert (h : Inv inspection s) {row : StoredFile} {blob : Blob} {rows : Table StoredFile}
    (hpath : blob.path ∉ s.paths) (hkey : row.pk ∉ s.keys) (hfile : row.file = blob.path)
    (hdeleted : row.deletedAt = none) (hdescribes : Describes inspection row blob.content)
    (hinsert : s.rows.insert? row = some rows) :
    Inv inspection { s with
      rows := rows
      storage := s.storage.put blob
      paths := blob.path :: s.paths
      keys := row.pk :: s.keys } := by
  have hwritten := h.write hpath row.pk
  have hrows : ∀ {other}, other ∈ rows → other ∈ s.rows ∨ other = row :=
    fun hother => (Table.mem_insert? hinsert).mp hother
  have hne : ∀ other ∈ s.rows, other.file ≠ row.file := fun other hother hsame =>
    hpath (hfile ▸ hsame ▸ h.paths other hother)
  have hnot : row.pk ∉ s.selected := fun hmem => hkey (h.selectedKeys row.pk hmem)
  refine ⟨fun other hother => ?_, fun other hother => ?_, fun a ha b hb hsame => ?_,
    fun cleanup hcleanup copy hcopy => ?_, hwritten.selectedKeys, fun other hother hselected => ?_,
    fun other hother hselected => ?_⟩
  · rcases hrows hother with hold | rfl
    · exact hwritten.paths other hold
    · exact hfile ▸ List.mem_cons_self
  · rcases hrows hother with hold | rfl
    · exact hwritten.keys other hold
    · exact List.mem_cons_self
  · rcases hrows ha with holdA | rfl
    · rcases hrows hb with holdB | rfl
      · exact h.unique a holdA b holdB hsame
      · exact absurd hsame (hne a holdA)
    · rcases hrows hb with holdB | rfl
      · exact absurd hsame.symm (hne b holdB)
      · rfl
  · obtain ⟨hold, hselected, hother⟩ := h.copies cleanup hcleanup copy hcopy
    refine ⟨List.mem_cons_of_mem _ hold, hselected, fun other hmem hsame => ?_⟩
    rcases hrows hmem with hmem | rfl
    · exact hother other hmem hsame
    · exact absurd (hfile ▸ hsame ▸ hold) hpath
  · rcases hrows hother with hold | rfl
    · exact h.pending other hold hselected
    · exact absurd hselected hnot
  · rcases hrows hother with hold | rfl
    · exact hwritten.intact other hold hselected
    · refine ⟨hdeleted, blob, ?_, hdescribes⟩
      show (s.storage.put blob).get? other.file = some blob
      rw [Table.get?_put, if_pos (show Keyed.pk blob = other.file from hfile.symm)]

theorem Inv.store (h : Inv inspection s) {owner : Option UUID} {upload : UploadedFile}
    {validator : SecureFileValidator} {pk drawn : UUID} {commits : Bool}
    (hpath : storedPath inspection owner upload.name drawn ∉ s.paths)
    (hkey : pk ∉ s.keys) (hposition : upload.position = 0)
    (hstore : FileService.store inspection settings now s owner upload validator pk drawn commits =
      .ok s') : Inv inspection s' := by
  unfold FileService.store at hstore
  split at hstore
  · cases hstore
  · rename_i metadata upload' hcall
    have hdescribes : Describes inspection (storedFile inspection now owner upload' metadata pk drawn)
        upload'.content := describes_storedFile owner pk drawn hposition hcall
    obtain ⟨_, rfl, _⟩ := call_eq_ok hcall
    dsimp only at hstore
    split at hstore
    · rename_i rows hinsert
      cases hstore
      cases commits with
      | true =>
          have hfresh : (Blob.mk (storedFile inspection now owner upload.rewind metadata pk
            drawn).file upload.rewind.content).path ∉ s.paths := hpath
          exact h.insert hfresh hkey rfl rfl hdescribes hinsert
      | false => exact h.write hpath pk
    · cases hstore
      exact h.write hpath pk

theorem inv_step {e : Int × Event} (h : Inv inspection s)
    (hstep : step inspection settings s e = some s') (hspares : e.2.spares s = true) :
    Inv inspection s' := by
  obtain ⟨now, event⟩ := e
  unfold step at hstep
  rw [Option.ite_none_right_eq_some] at hstep
  obtain ⟨hpossible, hrun⟩ := hstep
  cases event with
  | store owner upload validator pk drawn commits =>
      have hfresh := of_decide_eq_true hpossible
      simp only [Event.run, Option.some.injEq] at hrun
      cases hstore : FileService.store inspection settings now s owner upload validator pk drawn
          commits with
      | error raised =>
          rw [hstore] at hrun
          exact hrun ▸ h
      | ok t =>
          rw [hstore] at hrun
          exact hrun ▸ h.store hfresh.1 hfresh.2.1 hfresh.2.2 hstore
  | setStatus pk status =>
      cases hrun
      exact h.setStatus (of_decide_eq_true hspares) status
  | delete pk =>
      cases hrun
      exact h.delete pk
  | cleanup worker =>
      obtain ⟨cleanups, hinsert, rfl⟩ := Option.map_eq_some_iff.mp hrun
      exact h.cleanup hinsert
  | deleteFile worker =>
      simp only [Event.run] at hrun
      split at hrun
      · rename_i w copy copies hget
        have hw : w = worker := Table.pk_of_get? hget
        subst hw
        cases hrun
        exact h.deleteFile hget
      · cases hrun
  | saveDeleted worker =>
      simp only [Event.run] at hrun
      split at hrun
      · rename_i w copy copies hget
        have hw : w = worker := Table.pk_of_get? hget
        subst hw
        split at hrun
        · cases hrun
          exact h.eraseCleanup w
        · cases hrun
          exact h.saveDeleted hget
      · cases hrun
  | crash worker =>
      cases hrun
      exact h.eraseCleanup worker

/-! ### Runs -/

/-- **A file that is not pending is there.**  Take any interleaving of uploads, cleanups stopped
wherever they are, and changes in the admin, with no status changed of a row a cleanup has
selected.  Then a row that is not pending is not marked deleted, its file is in the storage, of
the type, the size and the checksum the row says, and no other row has the path. -/
theorem file_intact {es : List (Int × Event)}
    (hrun : exec (step inspection settings) {} es = some s)
    (hspares : Steps (step inspection settings) (fun s e _ => e.2.spares s = true) {} es) :
    ∀ row ∈ s.rows, row.status ≠ .pending → row.deletedAt = none ∧
      (∃ blob, s.storage.get? row.file = some blob ∧ Describes inspection row blob.content) ∧
      ∀ other ∈ s.rows, other.file = row.file → other = row := by
  have hinv : Inv inspection s := exec_of_inv (fun _ _ _ hinv hstep hspares =>
    inv_step hinv hstep hspares) (inv_init inspection) hspares hrun
  intro row hrow hstatus
  have hnot : row.pk ∉ s.selected := fun hmem => hstatus (hinv.pending row hrow hmem)
  obtain ⟨hdeleted, hintact⟩ := hinv.intact row hrow hnot
  refine ⟨hdeleted, hintact, fun other hother hfile => ?_⟩
  exact Table.eq_of_pk_eq hother hrow (hinv.unique other hother row hrow hfile)

/-- Two uploads, one of them held back and cleaned up a week later. -/
def heldBack : List (Int × Event) :=
  [(0, .store (some 1) hi textFiles 1 7 true), (0, .store none hi textFiles 2 8 true),
    (1, .setStatus 2 .pending), (seconds 700000, .cleanup 0), (seconds 700001, .deleteFile 0),
    (seconds 700001, .setStatus 1 .quarantined), (seconds 700002, .saveDeleted 0)]

theorem file_intact_heldBack : ∃ s, exec (step .plain smallFiles) {} heldBack = some s ∧
    ∀ row ∈ s.rows, row.status ≠ .pending → row.deletedAt = none ∧
      (∃ blob, s.storage.get? row.file = some blob ∧ Describes .plain row blob.content) ∧
      ∀ other ∈ s.rows, other.file = row.file → other = row := by
  obtain ⟨s, hs⟩ := Option.isSome_iff_exists.mp
    (show (exec (step .plain smallFiles) {} heldBack).isSome = true by decide +kernel)
  exact ⟨s, hs, file_intact hs (by decide +kernel)⟩

/-- A row that is made ready while a cleanup holds it loses its file. -/
example : (exec (step .plain smallFiles) {} [(0, .store none hi textFiles 2 8 true),
    (1, .setStatus 2 .pending), (seconds 700000, .cleanup 0), (seconds 700001, .setStatus 2 .ready),
    (seconds 700002, .deleteFile 0)]).map (fun s => (s.rows.rows.map StoredFile.status,
      s.storage.rows)) = some ([.ready], []) := by
  decide +kernel

end DjangoFoundation.Files
