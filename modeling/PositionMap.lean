import PositionMap.Proofs.History
import PositionMap.Proofs.Session.Readings
import PositionMap.Proofs.Session.Running
import PositionMap.Proofs.Session.Inert
import PositionMap.Proofs.Session.Stopping
import PositionMap.Proofs.Session.Handle
import PositionMap.Proofs.Session.Restart
import PositionMap.Proofs.Session.Comparison
import PositionMap.Proofs.Session.Undisturbed
import PositionMap.Proofs.Session.Contextless
import PositionMap.Proofs.Session.Traceless
import PositionMap.Proofs.Picture.Outlook
import PositionMap.Proofs.Picture.Independence
import PositionMap.Proofs.Session.Twins
import PositionMap.Proofs.Session.Unseen
import PositionMap.Proofs.Session.Marks
import PositionMap.Proofs.Session.Noting
import PositionMap.Proofs.Session.Pacing
import PositionMap.Proofs.Session.Container
import PositionMap.Proofs.Picture.Refusal
import PositionMap.Proofs.Picture.Drawing
import PositionMap.Proofs.Picture.Layers
import PositionMap.Proofs.Picture.Balance
import PositionMap.Proofs.Picture.Marker
import PositionMap.Proofs.Session.Creation
import PositionMap.Proofs.Spacing
import PositionMap.Proofs.Grid
import PositionMap.Proofs.Stride
import PositionMap.Proofs.Picture.TrailLine
import PositionMap.Proofs.Picture.Within
import PositionMap.Proofs.Picture.GridLines
import PositionMap.Proofs.Picture.Zoom
import PositionMap.Proofs.Acceptance
import PositionMap.Proofs.Reports
