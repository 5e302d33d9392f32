import LayoutEquations.Main
import LayoutEquations.Proofs.Compile.EveryView
import LayoutEquations.Proofs.Compile.Spacing
import LayoutEquations.Proofs.EdgeInsets
import LayoutEquations.Proofs.Equation.Signs
import LayoutEquations.Proofs.Batch
import LayoutEquations.Proofs.Compile.Renaming
import LayoutEquations.Proofs.Token.Tiling
import LayoutEquations.Proofs.Grammar.Errors
import LayoutEquations.Proofs.Equation.Errors
import LayoutEquations.Proofs.Alignment.Targets
import LayoutEquations.Proofs.Installer.Runs
import LayoutEquations.Proofs.Compile.Errors
import LayoutEquations.Proofs.CommandLine.ExitCode
import LayoutEquations.Proofs.CommandLine.Quiet
import LayoutEquations.Proofs.Grammar.AnyLexemes
import LayoutEquations.Proofs.Compile.Respelling
import LayoutEquations.Proofs.Compile.Addressing
import LayoutEquations.Proofs.CommandLine.ErrorLines
import LayoutEquations.Proofs.Constraint
import LayoutEquations.Proofs.View.Declarations
