/-
`FileService` (`apps/files/services.py`) and `cleanup_unused_files` (`apps/files/tasks.py`),
over the table of files and the storage their contents are in.

The storage takes no part in transactions.  A file is written before its row, and the row may
not come; the cleanup deletes a file and marks its row after that, for one row it has selected
after another, and may stop anywhere.  Everything else may happen in between, and the status
of a row is changed in the admin.
-/
import DjangoFoundation.Lib.Run
import DjangoFoundation.Lib.Table
import DjangoFoundation.Files.Validators

namespace DjangoFoundation.Files

inductive FileStatus
  | pending
  | ready
  | quarantined
  | rejected
  deriving DecidableEq, Repr

structure StoredFile where
  pk : UUID
  owner : Option UUID
  /-- `file.name`, the path in the storage. -/
  file : String
  originalName : String
  contentType : String
  size : Nat
  checksumSha256 : String
  status : FileStatus := .pending
  createdAt : Int
  deletedAt : Option Int := none
  deriving DecidableEq, Repr

/-- A file in the storage. -/
structure Blob where
  path : String
  content : List UInt8
  deriving DecidableEq, Repr

/-- A run of the cleanup: the rows it has selected and is not done with, as it has read them,
and whether the file of the first one is deleted. -/
structure CleanupRun where
  worker : Nat
  files : List StoredFile
  fileDeleted : Bool := false
  deriving DecidableEq, Repr

instance : Keyed StoredFile UUID := ⟨StoredFile.pk⟩
instance : Keyed Blob String := ⟨Blob.path⟩
instance : Keyed CleanupRun Nat := ⟨CleanupRun.worker⟩

/-- The table, the storage and the cleanups under way; with it the paths and the keys drawn so
far, and the rows selected so far. -/
structure State where
  rows : Table StoredFile := ∅
  storage : Table Blob := ∅
  cleanups : Table CleanupRun := ∅
  paths : List String := []
  keys : List UUID := []
  selected : List UUID := []

inductive Event
  /-- `FileService.store`, and whether its transaction commits once the file is written. -/
  | store (owner : Option UUID) (upload : UploadedFile) (validator : SecureFileValidator)
      (pk drawn : UUID) (commits : Bool)
  /-- A status saved in the admin. -/
  | setStatus (pk : UUID) (status : FileStatus)
  /-- A row deleted in the admin, which leaves its file. -/
  | delete (pk : UUID)
  /-- A worker takes up `cleanup_unused_files`. -/
  | cleanup (worker : Nat)
  /-- `stored_file.file.delete(save=False)`. -/
  | deleteFile (worker : Nat)
  /-- The save of `deleted_at`, which raises where the row is gone. -/
  | saveDeleted (worker : Nat)
  /-- The worker is stopped. -/
  | crash (worker : Nat)

variable (inspection : Inspection) (settings : FileSettings) (now : Int)

/-- The row `store` creates. -/
def storedFile (owner : Option UUID) (upload : UploadedFile)
    (metadata : SecureFileValidator.Metadata) (pk drawn : UUID) : StoredFile where
  pk := pk
  owner := owner
  file := storedPath inspection owner upload.name drawn
  originalName := String.ofList (upload.name.toList.take 255)
  contentType := metadata.contentType
  size := metadata.size
  checksumSha256 := metadata.checksumSha256
  status := .ready
  createdAt := now

/-- `FileService.store`. -/
def FileService.store (s : State) (owner : Option UUID) (upload : UploadedFile)
    (validator : SecureFileValidator) (pk drawn : UUID) (commits : Bool) : Except Raised State :=
  match validator.call inspection settings upload with
  | .error raised => .error raised
  | .ok (metadata, upload) =>
      let row := storedFile inspection now owner upload metadata pk drawn
      -- `FieldFile.save` writes all of the chunks
      let s := { s with
        storage := s.storage.put ⟨row.file, upload.content⟩
        paths := row.file :: s.paths
        keys := pk :: s.keys }
      match s.rows.insert? row with
      | some rows => .ok (if commits then { s with rows := rows } else s)
      | none => .ok s

/-- The rows a cleanup selects. -/
def unused (s : State) : List StoredFile :=
  s.rows.rows.filter fun row => row.status = .pending ∧
    row.createdAt < now - seconds (86400 * settings.fileRetentionDays) ∧ row.deletedAt = none

theorem status_pk (row : StoredFile) (status : FileStatus) :
    Keyed.pk { row with status := status } = Keyed.pk row := rfl

theorem deleted_pk (row : StoredFile) (deletedAt : Option Int) :
    Keyed.pk { row with deletedAt := deletedAt } = Keyed.pk row := rfl

def Event.run (s : State) : Event → Option State
  | .store owner upload validator pk drawn commits =>
      some ((FileService.store inspection settings now s owner upload validator pk drawn
        commits).toOption.getD s)
  | .setStatus pk status => some { s with
      rows := s.rows.modify pk (fun row => { row with status := status })
        fun row => status_pk row status }
  | .delete pk => some { s with rows := s.rows.erase pk }
  | .cleanup worker =>
      let files := unused settings now s
      (s.cleanups.insert? { worker := worker, files := files }).map fun cleanups => { s with
        cleanups := cleanups
        selected := files.map StoredFile.pk ++ s.selected }
  | .deleteFile worker =>
      match s.cleanups.get? worker with
      | some ⟨_, file :: files, false⟩ => some { s with
          storage := s.storage.erase file.file
          cleanups := s.cleanups.put ⟨worker, file :: files, true⟩ }
      | _ => none
  | .saveDeleted worker =>
      match s.cleanups.get? worker with
      | some ⟨_, file :: files, true⟩ =>
          if (s.rows.get? file.pk).isNone then
            some { s with cleanups := s.cleanups.erase worker }
          else some { s with
            rows := s.rows.modify file.pk (fun row => { row with deletedAt := some now })
              fun row => deleted_pk row (some now)
            cleanups := s.cleanups.put ⟨worker, files, false⟩ }
      | _ => none
  | .crash worker => some { s with cleanups := s.cleanups.erase worker }

/-- A path and a key are drawn once, and an upload comes rewound. -/
def Event.possible (s : State) : Event → Bool
  | .store owner upload _ pk drawn _ =>
      storedPath inspection owner upload.name drawn ∉ s.paths ∧ pk ∉ s.keys ∧
        upload.position = 0
  | _ => true

def step (s : State) (e : Int × Event) : Option State :=
  if e.2.possible inspection s then e.2.run inspection settings e.1 s else none

/-- The event leaves the status of every row alone that a cleanup has selected. -/
def Event.spares (s : State) : Event → Bool
  | .setStatus pk _ => pk ∉ s.selected
  | _ => true

end DjangoFoundation.Files
