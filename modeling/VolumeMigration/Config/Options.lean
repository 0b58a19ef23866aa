import VolumeMigration.Config.Document
import VolumeMigration.Quiesce.Writer
import VolumeMigration.Transfer.Basic
/-!
# Options as documents

The options of tunnels, transfers and quiescing are read from the fields of a
document and written as the members of a JSON record. Fields that are not given
have their defaults, and unknown fields do not count.
-/

namespace VolumeMigration

open Document (Members)

namespace RsyncSwitch

/-- The name of a switch in a document. -/
def fieldName : RsyncSwitch → String
  | recursive => "recursive"
  | links => "links"
  | perms => "perms"
  | devices => "devices"
  | specials => "specials"
  | owner => "owner"
  | group => "group"
  | hardLinks => "hardLinks"
  | delete => "delete"
  | partialFiles => "partial"
  | humanReadable => "humanReadable"

end RsyncSwitch

namespace RsyncOptions

def fieldNames : List String :=
  RsyncSwitch.all.map (·.fieldName) ++ ["bwLimit", "logFile", "info", "extras"]

/-- The options with the given ones of some switches. -/
def withSwitches? (ms : Members) : RsyncOptions → List RsyncSwitch → Option RsyncOptions
  | o, [] => some o
  | o, s :: ss => do withSwitches? ms (o.withSwitch s (← ms.valueOr? s.fieldName (o.on s) Document.bool?)) ss

/-- Options that differ from others in the fields of a document. -/
def ofDocument? (base : RsyncOptions) (d : Document) : Option RsyncOptions := do
  let ms ← d.fields? fieldNames
  let o ← withSwitches? ms base RsyncSwitch.all
  some { o with
    bwLimit := ← ms.valueOr? "bwLimit" base.bwLimit
      (Document.optional? (Document.int? Text.minInt64 Text.maxInt64))
    logFile := ← ms.valueOr? "logFile" base.logFile (Document.optional? Document.text?)
    info := ← ms.valueOr? "info" base.info (Document.list? Document.text?)
    extras := ← ms.valueOr? "extras" base.extras (Document.list? Document.text?) }

def toJson (o : RsyncOptions) : Json := .obj
  ((RsyncSwitch.all.map fun s => (s.fieldName, .bool (o.on s))) ++
    [("bwLimit", Json.ofOption .int o.bwLimit), ("logFile", Json.ofOption .str o.logFile),
      ("info", .arr (o.info.map .str)), ("extras", .arr (o.extras.map .str))])

end RsyncOptions

def StunnelOptions.ofDocument? (d : Document) : Option StunnelOptions := do
  let ms ← d.fields? ["image", "caVerifyLevel", "noVerifyCa", "proxyUrl", "proxyUsername", "proxyPassword"]
  let base : StunnelOptions := {}
  some {
    image := ← ms.valueOr? "image" base.image Document.text?
    caVerifyLevel := ← ms.valueOr? "caVerifyLevel" base.caVerifyLevel Document.text?
    noVerifyCa := ← ms.valueOr? "noVerifyCa" base.noVerifyCa Document.bool?
    proxyUrl := ← ms.valueOr? "proxyUrl" none (Document.optional? Document.text?)
    proxyUsername := ← ms.valueOr? "proxyUsername" none (Document.optional? Document.text?)
    proxyPassword := ← ms.valueOr? "proxyPassword" none (Document.optional? Document.text?) }

def StunnelOptions.toJson (o : StunnelOptions) : Json := .obj
  [("image", .str o.image), ("caVerifyLevel", .str o.caVerifyLevel), ("noVerifyCa", .bool o.noVerifyCa),
    ("proxyUrl", Json.ofOption .str o.proxyUrl), ("proxyUsername", Json.ofOption .str o.proxyUsername),
    ("proxyPassword", Json.ofOption .str o.proxyPassword)]

def BlockrsyncOptions.ofDocument? (d : Document) : Option BlockrsyncOptions := do
  let ms ← d.fields? ["blockSize"]
  let base : BlockrsyncOptions := {}
  some { blockSize := ← ms.valueOr? "blockSize" base.blockSize (Document.nat? Text.maxUInt32) }

def BlockrsyncOptions.toJson (o : BlockrsyncOptions) : Json := .obj [("blockSize", .int o.blockSize)]

def Images.ofDocument? (d : Document) : Option Images := do
  let ms ← d.fields? ["rsync", "rclone", "blockrsync"]
  let base : Images := {}
  some {
    rsync := ← ms.valueOr? "rsync" base.rsync Document.text?
    rclone := ← ms.valueOr? "rclone" base.rclone Document.text?
    blockrsync := ← ms.valueOr? "blockrsync" base.blockrsync Document.text? }

def WorkloadOptions.ofDocument? (d : Document) : Option WorkloadOptions := do
  let ms ← d.fields? ["images", "nodeName", "labels", "serviceAccountName"]
  some {
    images := ← ms.valueOr? "images" {} Images.ofDocument?
    nodeName := ← ms.valueOr? "nodeName" none (Document.optional? Document.text?)
    labels := ← ms.valueOr? "labels" .empty Document.stringMap?
    serviceAccountName := ← ms.valueOr? "serviceAccountName" none (Document.optional? Document.text?) }

def WorkloadOptions.toJson (o : WorkloadOptions) : Json := .obj
  [("images", .obj [("rsync", .str o.images.rsync), ("rclone", .str o.images.rclone),
      ("blockrsync", .str o.images.blockrsync)]),
    ("nodeName", Json.ofOption .str o.nodeName), ("labels", JsonForm.toJson o.labels),
    ("serviceAccountName", Json.ofOption .str o.serviceAccountName)]

def QuiesceOptions.ofDocument? (d : Document) : Option QuiesceOptions := do
  let ms ← d.fields? ["pollIntervalSeconds", "wait"]
  let base : QuiesceOptions := {}
  some {
    pollIntervalSeconds := ← ms.valueOr? "pollIntervalSeconds" base.pollIntervalSeconds (Document.nat? Text.maxUInt64)
    wait := ← ms.valueOr? "wait" base.wait Document.bool? }

def QuiesceOptions.toJson (o : QuiesceOptions) : Json := .obj
  [("pollIntervalSeconds", .int o.pollIntervalSeconds), ("wait", .bool o.wait)]

end VolumeMigration
