import CriticalCss.Main
import CriticalCss.Proofs.BrowserTabs
import CriticalCss.Proofs.CriticalSafety
import CriticalCss.Proofs.DeclarationText
import CriticalCss.Proofs.DownloadOrder
import CriticalCss.Proofs.ErrorBudget
import CriticalCss.Proofs.FilterComposition
import CriticalCss.Proofs.FontFaces
import CriticalCss.Proofs.FontShorthand
import CriticalCss.Proofs.NormalForm
import CriticalCss.Proofs.Progress
import CriticalCss.Proofs.SafeFileName
import CriticalCss.Proofs.SharedTrees
import CriticalCss.Proofs.SizeLimit
