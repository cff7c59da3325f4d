import Chip8.Log.Registry
import Chip8.Main
import Chip8.Proofs.AssembledWords
import Chip8.Proofs.BareRun
import Chip8.Proofs.CallReturn
import Chip8.Proofs.CallStack
import Chip8.Proofs.Deadlines
import Chip8.Proofs.Decoding
import Chip8.Proofs.Drawing
import Chip8.Proofs.Execution
import Chip8.Proofs.ExitStatus
import Chip8.Proofs.Faults
import Chip8.Proofs.Footprint
import Chip8.Proofs.History
import Chip8.Proofs.Images
import Chip8.Proofs.Independence
import Chip8.Proofs.IndexSums
import Chip8.Proofs.KeyWait
import Chip8.Proofs.LastInFirstOut
import Chip8.Proofs.LitPixels
import Chip8.Proofs.LogLevels
import Chip8.Proofs.MemoryImage
import Chip8.Proofs.Messages
import Chip8.Proofs.NextCounter
import Chip8.Proofs.Pictures
import Chip8.Proofs.RandomStream
import Chip8.Proofs.RegisterArithmetic
import Chip8.Proofs.Requests
import Chip8.Proofs.RomSources
import Chip8.Proofs.SavedRegisters
import Chip8.Proofs.SessionRun
import Chip8.Proofs.Sprites
import Chip8.Proofs.Steps
import Chip8.Proofs.Timers
import Chip8.Proofs.WellFormed
import Chip8.Proofs.DecimalDigits
import Chip8.Proofs.SharedLoggers
import Chip8.Proofs.ClockRates
import Chip8.Proofs.Pacing
