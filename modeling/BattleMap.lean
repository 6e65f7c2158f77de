import BattleMap.Main
import BattleMap.Proofs.RoundTrip
import BattleMap.Proofs.Separation
import BattleMap.Proofs.Area
import BattleMap.Proofs.Orientation
import BattleMap.Proofs.Components
import BattleMap.Proofs.Correspondence
import BattleMap.Proofs.Counting
import BattleMap.Proofs.Reading
import BattleMap.Proofs.Stamping
import BattleMap.Proofs.Compilation
import BattleMap.Proofs.Balance
import BattleMap.Proofs.CheckedJoining
import BattleMap.Proofs.Denotation
import BattleMap.Proofs.Layering
import BattleMap.Proofs.Acceptance
import BattleMap.Proofs.Interleaving
import BattleMap.Proofs.Refusal
import BattleMap.Proofs.Junctions
import BattleMap.Proofs.Succession
import BattleMap.Proofs.Union
import BattleMap.Proofs.CanonicalForm
import BattleMap.Proofs.EnclosedArea
import BattleMap.Proofs.Magnification
import BattleMap.Proofs.Translation
import BattleMap.Proofs.Framing
import BattleMap.Proofs.Commutation
import BattleMap.Proofs.Tokenization
import BattleMap.Proofs.Viability
import BattleMap.Proofs.FirstFault
import BattleMap.Proofs.Pointing
import BattleMap.Proofs.Printing
import BattleMap.Proofs.Footprint
import BattleMap.Proofs.Conduct
import BattleMap.Proofs.Effects
import BattleMap.Proofs.LineEnds
import BattleMap.Proofs.LatticeLines
import BattleMap.Proofs.Unmerging
import BattleMap.Proofs.CellSize
import BattleMap.Proofs.DrawingReading
