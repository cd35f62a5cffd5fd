import Kddv.Config.Agreement
import Kddv.Config.MapSdo
import Kddv.Config.Readings
import Kddv.Config.Usable
import Kddv.Gui.Boxes
import Kddv.Gui.CatchUp
import Kddv.Gui.Cycles
import Kddv.Gui.Labels
import Kddv.Gui.Refresh
import Kddv.Gui.Restart
import Kddv.Gui.WheelList
import Kddv.Master.Outputs
import Kddv.Master.Returns
import Kddv.Master.Socket
import Kddv.Master.Start
import Kddv.Slave.Message
import Kddv.Sniffer.LogicalAddress
import Kddv.Sniffer.Permutation
import Kddv.Sniffer.Source
import Kddv.Ui.Cycles
import Kddv.Ui.Options
import Kddv.Ui.Window
