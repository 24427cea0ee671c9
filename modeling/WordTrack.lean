import WordTrack.Random.Seed
import WordTrack.Round.Json
import WordTrack.Game.Describe
import WordTrack.Main
import WordTrack.Proofs.Letters
import WordTrack.Proofs.Conservation
import WordTrack.Proofs.Independence
import WordTrack.Proofs.History
import WordTrack.Proofs.Ledger
import WordTrack.Proofs.Verdicts
import WordTrack.Proofs.LiveLevel
import WordTrack.Proofs.Progress
import WordTrack.Proofs.Track
import WordTrack.Proofs.Attempt
import WordTrack.Proofs.Rewind
import WordTrack.Proofs.Shoves
import WordTrack.Proofs.Solving
import WordTrack.Proofs.Floor
import WordTrack.Proofs.Boundary
import WordTrack.Proofs.Draws
import WordTrack.Proofs.Screen
import WordTrack.Proofs.Starts
import WordTrack.Proofs.Strike
import WordTrack.Proofs.RoundingError
import WordTrack.Proofs.Nearest
import WordTrack.Proofs.Shortest
import WordTrack.Proofs.SubWord
import WordTrack.Proofs.Undo
import WordTrack.Proofs.Reading
import WordTrack.Proofs.Numerals
import WordTrack.Proofs.Writing
import WordTrack.Proofs.Records
import WordTrack.Proofs.Snapshot
import WordTrack.Proofs.Stepping
import WordTrack.Proofs.AttemptEnd
import WordTrack.Proofs.Batch
import WordTrack.Proofs.Polling
import WordTrack.Proofs.Conversion
import WordTrack.Proofs.Loading
