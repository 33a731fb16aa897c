import GridRobot.Main
import GridRobot.Proofs.Pacing
import GridRobot.Proofs.Solvable
import GridRobot.Proofs.Failure
import GridRobot.Proofs.Schedule
import GridRobot.Proofs.Wins
import GridRobot.Proofs.Conditions
import GridRobot.Proofs.Lockstep
import GridRobot.Proofs.Resets
import GridRobot.Proofs.Journal
import GridRobot.Proofs.Callbacks
import GridRobot.Proofs.Reporting
import GridRobot.Proofs.Clock
import GridRobot.Proofs.Attribution
import GridRobot.Proofs.Output
import GridRobot.Proofs.Exit
import GridRobot.Proofs.Effects
import GridRobot.Proofs.Draws
import GridRobot.Proofs.Rearranged
import GridRobot.Proofs.Precedence
import GridRobot.Proofs.Operands
import GridRobot.Proofs.Search
import GridRobot.Proofs.Transcript
import GridRobot.Proofs.Letters
import GridRobot.Proofs.Placement
import GridRobot.Proofs.Sensor
import GridRobot.Proofs.WayBack
import GridRobot.Proofs.Spelling
import GridRobot.Proofs.Attempts
import GridRobot.Proofs.Runes
import GridRobot.Proofs.Scatter
import GridRobot.Proofs.Lexemes
import GridRobot.Proofs.Statements
import GridRobot.Proofs.Numerals
import GridRobot.Proofs.BoardFiles
import GridRobot.Proofs.Delivery
import GridRobot.Proofs.Pictures
import GridRobot.Proofs.Scanning
import GridRobot.Proofs.Scripts
