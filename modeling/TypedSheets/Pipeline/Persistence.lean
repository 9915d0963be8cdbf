import TypedSheets.Pipeline.Basic

/-!
# Storing outputs

What of a run is stored: every record of the outputs whose class is stored on its own,
and every table that is no join, with the rows that joins put into it.
-/

namespace TypedSheets.Pipeline

/-- Whether the records of an output are stored one by one: the first setting of its
class is configured and does not make plain data. -/
def storesRecords (config : Config) (output : ConversionOutput) : Bool :=
  match config.setting output.className with
  | .ok setting => output.enumDef.isNone && !setting.isPureClass
  | .error _ => false

/-- The assets of the records of outputs. -/
def recordAssets (pipeline : Pipeline) (now : String) (outputs : List ConversionOutput) :
    List Asset :=
  (outputs.filter (storesRecords pipeline.config)).flatMap fun output =>
    output.records.map (Store.assetOfRecord now)

/-- The assets of the tables in the catalog. -/
def tableAssets (pipeline : Pipeline) (now : String) : List Asset :=
  (pipeline.config.settings.filter fun setting => setting.output == .table && !setting.isJoin).filterMap
    fun setting =>
      (pipeline.catalog.get? setting.className).map (Store.assetOfTable now setting.tableAsset)

/-- Save assets up to the first failure; answers how many were saved. -/
def saveAll (files : Files) (store : Store) :
    List Asset → Except StoreError Nat × Files × Store
  | [] => (.ok 0, files, store)
  | asset :: assets =>
      match store.save files asset with
      | (.error error, files, store) => (.error error, files, store)
      | (.ok _, files, store) =>
          match saveAll files store assets with
          | (.error error, files, store) => (.error error, files, store)
          | (.ok count, files, store) => (.ok (count + 1), files, store)

/-- Store the records of outputs and the tables in the catalog. -/
def persist (pipeline : Pipeline) (now : String) (outputs : List ConversionOutput) (files : Files)
    (store : Store) : Except PipelineError Nat × Files × Store :=
  match saveAll files store (pipeline.recordAssets now outputs ++ pipeline.tableAssets now) with
  | (.ok count, files, store) => (.ok count, files, store)
  | (.error error, files, store) => (.error (.store error), files, store)

end TypedSheets.Pipeline
