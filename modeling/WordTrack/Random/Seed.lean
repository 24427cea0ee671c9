import WordTrack.Json.Record

/-! Stored seeds. -/
namespace WordTrack.Seed

/-- A seed as the only field of a record. -/
def reader : Json.Reader UInt64 :=
  Json.record [Json.field "seed" id (fun _ n => some n) (Json.natural (twoPow 64))] none
    fun seed => seed.map UInt64.ofNat

end WordTrack.Seed
