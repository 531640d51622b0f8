import CatalogIntake.JobId
import CatalogIntake.Product.Record

namespace CatalogIntake

def JobId.decode : Json.Decoder JobId
  | .string s => (JobId.read s).mapError fun e => .refused e.message
  | value => Json.wrongType value "a formatted UUID string"

structure Chunk where
  jobId : JobId
  number : Int
  records : List ProductRecord
  deriving DecidableEq, Repr

namespace Chunk

def toJson (c : Chunk) : Json :=
  .object [("jobId", .string c.jobId.text), ("chunkNumber", .integer c.number),
    ("products", .array (c.records.map ProductRecord.toJson))]

def wire (c : Chunk) : String := c.toJson.render

def fields : Json.Fields Chunk :=
  Chunk.mk <$> .required "jobId" JobId.decode <*> .required "chunkNumber" Json.int32
    <*> .required "products" (Json.items ProductRecord.decode)

def decode : Json.Decoder Chunk := Json.record "ImportChunk" fields

end Chunk

end CatalogIntake
