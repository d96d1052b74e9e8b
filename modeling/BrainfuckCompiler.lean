import BrainfuckCompiler.FileStore.Unix
import BrainfuckCompiler.Main
import BrainfuckCompiler.Proofs.Blocks
import BrainfuckCompiler.Proofs.Determination
import BrainfuckCompiler.Proofs.FileStore
import BrainfuckCompiler.Proofs.Simulation
import BrainfuckCompiler.Proofs.Run.Stages
import BrainfuckCompiler.Proofs.Run.Failure
import BrainfuckCompiler.Proofs.Run.Success
import BrainfuckCompiler.Proofs.C.Lexemes
import BrainfuckCompiler.Proofs.C.Survey
import BrainfuckCompiler.Proofs.Interface
import BrainfuckCompiler.Proofs.Invocation.Reading
import BrainfuckCompiler.Proofs.Invocation.Account
import BrainfuckCompiler.Proofs.StringLiteral.Bodies
import BrainfuckCompiler.Proofs.Invocation.Acceptance
import BrainfuckCompiler.Proofs.Invocation.Meaning
import BrainfuckCompiler.Proofs.Run.Course
import BrainfuckCompiler.Proofs.Run.Printing
import BrainfuckCompiler.Proofs.Run.Reproducibility
import BrainfuckCompiler.Proofs.Brackets.Position
import BrainfuckCompiler.Proofs.Utf8.Characters
import BrainfuckCompiler.Proofs.Encoding
import BrainfuckCompiler.Proofs.Invocation.Rejection
import BrainfuckCompiler.Proofs.Invocation.Exchange
import BrainfuckCompiler.Proofs.Run.Allocation
import BrainfuckCompiler.Proofs.PathName.DefaultOutput
import BrainfuckCompiler.Proofs.Settings
