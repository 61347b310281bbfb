import SolidScene.Render
import SolidScene.Scene
import SolidScene.Proofs.CoordinateArithmetic
import SolidScene.Proofs.EditedPlaces
import SolidScene.Proofs.EventLogs
import SolidScene.Proofs.IntactText
import SolidScene.Proofs.NodeEquality
import SolidScene.Proofs.OwnParameters
import SolidScene.Proofs.RecoveringSinks
import SolidScene.Proofs.SceneTraces
import SolidScene.Proofs.ShortestText
import SolidScene.Proofs.StepSequences
import SolidScene.Proofs.WellFormedNodes
