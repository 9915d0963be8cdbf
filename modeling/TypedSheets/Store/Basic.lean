import TypedSheets.Files.Basic
import TypedSheets.Store.Asset
import TypedSheets.Table.Basic

/-!
# Stores

Assets by name, each kept in memory and in a file of its own in the directory of the
store. Opening a store reads the files back; saving and deleting change the file and
the memory together.
-/

namespace TypedSheets

/-- Why a store refuses an operation. -/
inductive StoreError where
  | notFound (name : String)
  | file (error : FileError)
deriving DecidableEq

/-- The text of an error. -/
def StoreError.message : StoreError → String
  | .notFound name => "Asset not found: " ++ name
  | .file error => "Store IO error: " ++ error.message

/-- The assets of a directory. -/
structure Store where
  directory : String
  assets : Index Asset

namespace Store

/-- Where assets are stored unless another directory is given. -/
def defaultDirectory : String := ".sheetforge/assets"

/-- The path of the file of an asset. -/
def pathOf (directory name : String) : String := Path.join directory (name ++ ".json")

/-- The asset in a file of a store, if it is one. -/
def assetOfFile? (file : String × ByteArray) : Option Asset :=
  if Path.extension? file.1 = some "json" then (String.fromUTF8? file.2).bind Asset.read? else none

/-- Open the store of a directory with the assets that are in it. A directory that
cannot be read makes an empty store. -/
def ofDirectory (files : Files) (directory : String) : Store :=
  match files.filesIn directory with
  | .error _ => ⟨directory, Index.empty⟩
  | .ok found =>
      ⟨directory,
        (found.filterMap assetOfFile?).foldl (fun assets asset => assets.insert asset.name asset)
          Index.empty⟩

/-- All assets by ascending name. -/
def list (store : Store) : List Asset := store.assets.values

/-- The asset of a name. -/
def load (store : Store) (name : String) : Except StoreError Asset :=
  match store.assets.get? name with
  | some asset => .ok asset
  | none => .error (.notFound name)

/-- Save an asset: make the directory, write the file, remember the asset. -/
def save (files : Files) (store : Store) (asset : Asset) :
    Except StoreError String × Files × Store :=
  match files.makeDirectories store.directory with
  | .error error => (.error (.file error), files, store)
  | .ok files =>
      match files.writeText (pathOf store.directory asset.name) asset.write with
      | .error error => (.error (.file error), files, store)
      | .ok files =>
          (.ok asset.name, files, { store with assets := store.assets.insert asset.name asset })

/-- The asset of a record. A record without a name is stored under its class. -/
def assetOfRecord (now : String) (record : Record) : Asset :=
  { name := record.assetName.getD record.typeName
    kind := .record
    className := record.typeName
    savedAt := now
    records := [record] }

/-- The asset of a table. -/
def assetOfTable (now name : String) (table : Table) : Asset :=
  { name
    kind := .table
    className := table.className
    savedAt := now
    records := table.records }

/-- Forget an asset and remove its file. -/
def delete (files : Files) (store : Store) (name : String) :
    Except StoreError Unit × Files × Store :=
  match store.assets.get? name with
  | none => (.error (.notFound name), files, store)
  | some _ =>
      let forgotten := { store with assets := store.assets.erase name }
      match files.remove (pathOf store.directory name) with
      | .error error => (.error (.file error), files, forgotten)
      | .ok files => (.ok (), files, forgotten)

end Store

end TypedSheets
