import JsxDetect.Automaton.Packed

/-!
# Parsing automaton: states 512 to 1023

Packed rows; see `PackedRow` for the layout.
-/

namespace JsxDetect.Automaton

/-- States 512 to 575. -/
def states0512 : List PackedRow := [
  ⟨1, 2, 0x455c0f18901c577411189c1f39b40680000007bc0a34900157201b08181a01680b3808100aa00e30f4134494054490044ee41903500302b81808141703180208101e16180911701441e80c122421122807, 0x44f0054eec00386001132c042c480b577802306c07442c0a557006189c0c18a00e16900925c40812840d337403⟩,
  ⟨1, 2, 0x455c0f18901c577411189c1f39b40680000007bc0a34900157201b08181a01680b3808100aa00e30f4134494054490044ee41903500302b81808141703180208101e16180911701441e80c122421122807, 0x44f0054eec00386001132c042c480b577802306c07442c0a557006189c0c18a00e16900925c80812840d337403⟩,
  ⟨1, 2, 0x455c0f18901c189c9f57741117248039b40680000007bc0a34900157201b08181a01680b3808100aa00e30f4134494054490044ee41903500302b81808141703180208101e16180911701441e80c122421122807, 0x44f0054eec00386001132c042c480b577802306c07442c0a557006189c0c18a00e16900925dc0812840d337403⟩,
  ⟨1, 2, 0x455c0f18901c577411189c1f39b40680000007bc0a34900157201b08181a01680b3808100aa00e30f4134494054490044ee41903500302b81808141703180208101e16180911701441e80c122421122807, 0x44f0054eec00386001132c042c480b577802306c07442c0a557006189c0c18a00e16900925d00812840d337403⟩,
  ⟨1, 2, 0x455c0f18901c577411189c1f39b40680000007bc0a34900157201b08181a01680b3808100aa00e30f4134494054490044ee41903500302b81808141703180208101e16180911701441e80c122421122807, 0x44f0054eec00386001132c042c480b577802306c07442c0a557006189c0c18a00e16900925dc0812840d337403⟩,
  ⟨1, 2, 0x455c0f18901c577411189c1f39b40680000007bc0a34900157201b08181a01680b3808100aa00e30f4134494054490044ee41903500302b81808141703180208101e16180911701441e80c122421122807, 0x44f0054eec00386001132c042c480b577802306c07442c0a557006189c0c18a00e16900925e00812840d337403⟩,
  ⟨1, 2, 0x455c0f27981c577411189c1f39b40680000007bc0a34900157201b08181a024c0b3808100bcc0e30f4134494054490044ee41903500302b81808141703180208101e16180913041441e80c154c21155007, 0x44f0054eec00386001132c042c480b577802306c07442c0a578c06189c0c18a00e169009256408159c0d337403⟩,
  ⟨1, 2, 0x455c0f24981c58881120981f385c06800000075c0a342c0157b01b0a1c1a01dc0b34e4100aec0e30901342f80542f4044ee41903400302a0180a08170314020a041e16140911d8143abc0c140821141c07, 0x430c054eec00386001132c042c800b588c022f3c0742fc0a58900620980c20a00e1d5c091b140814680d312003⟩,
  ⟨1, 2, 0x455c0f24981c58881120981f385c06800000075c0a342c0157b01b0a1c1a01dc0b34e4100aec0e30901342f80542f4044ee41903400302a0180a08170314020a041e16140911d8143abc0c140821141c07, 0x430c054eec00386001132c042c800b588c022f3c0742fc0a58900620980c20a00e1d5c091b180814680d312003⟩,
  ⟨1, 2, 0x455c0f24981c58881120981f385c06800000075c0a342c0157b01b0a1c1a01dc0b34e4100aec0e30901342f80542f4044ee41903400302a0180a08170314020a041e16140911d8143abc0c140821141c07, 0x430c054eec00386001132c042c800b588c022f3c0742fc0a58900620980c20a00e1d5c091b1c0814680d312003⟩,
  ⟨1, 2, 0x455c0f24981c58881120981f385c06800000075c0a342c0157b01b0a1c1a01dc0b34e4100aec0e30901342f80542f4044ee41903400302a0180a08170314020a041e16140911d8143abc0c140821141c07, 0x430c054eec00386001132c042c800b588c022f3c0742fc0a58900620980c20a00e1d5c091b240814680d312003⟩,
  ⟨1, 2, 0x455c0f26981c579811189c1f39b4068000000a0c0a34900157201b08cc1a02140b3808100b400e30f4134494054490044ee41903540302ac1808c81703180208c41e161c09127c1441e80c14bc2114c407, 0x44f0054eec00386001132c042c5c0b579c02306c07442c0a586006189c0c18a00e16900923900814e80d337403⟩,
  ⟨1, 2, 0x455c0f24981c58881120981f385c06800000075c0a342c0157b01b0a1c1a01dc0b34e4100aec0e30901342f80542f4044ee41903400302a0180a08170314020a041e16140911d8143abc0c140821141c07, 0x430c054eec00386001132c042c800b588c022f3c0742fc0a58900620980c20a00e1d5c091b280814680d312003⟩,
  ⟨1, 2, 0x455c0f24981c58881120981f385c06800000075c0a342c0157b01b0a1c1a01dc0b34e4100aec0e30901342f80542f4044ee41903400302a0180a08170314020a041e16140911d8143abc0c140821141c07, 0x430c054eec00386001132c042c800b588c022f3c0742fc0a58900620980c20a00e1d5c091b2c0814680d312003⟩,
  ⟨1, 2, 0x455c0f24981c58881120981f385c06800000075c0a342c0157b01b0a1c1a01dc0b34e4100aec0e30901342f80542f4044ee41903400302a0180a08170314020a041e16140911d8143abc0c140821141c07, 0x430c054eec00386001132c042c800b588c022f3c0742fc0a58900620980c20a00e1d5c091b300814680d312003⟩,
  ⟨1, 2, 0x455c0f24981c58881120981f385c06800000075c0a342c0157b01b0a1c1a01dc0b34e4100aec0e30901342f80542f4044ee41903400302a0180a08170314020a041e16140911d8143abc0c140821141c07, 0x430c054eec00386001132c042c800b588c022f3c0742fc0a58900620980c20a00e1d5c091b340814680d312003⟩,
  ⟨1, 2, 0x455c0f24981c58881120981f385c06800000075c0a342c0157b01b0a1c1a01dc0b34e4100aec0e30901342f80542f4044ee41903400302a0180a08170314020a041e16140911d8143abc0c140821141c07, 0x430c054eec00386001132c042c800b588c022f3c0742fc0a58900620980c20a00e1d5c091b380814680d312003⟩,
  ⟨1, 2, 0x455c0f24981c58881120981f385c06800000075c0a342c0157b01b0a1c1a01dc0b34e4100aec0e30901342f80542f4044ee41903400302a0180a08170314020a041e16140911d8143abc0c140821141c07, 0x430c054eec00386001132c042c800b588c022f3c0742fc0a58900620980c20a00e1d5c091b3c0814680d312003⟩,
  ⟨1, 2, 0x455c0f24981c58881120981f385c06800000075c0a342c0157b01b0a1c1a01dc0b34e4100aec0e30901342f80542f4044ee41903400302a0180a08170314020a041e16140911d8143abc0c140821141c07, 0x430c054eec00386001132c042c800b588c022f3c0742fc0a58900620980c20a00e1d5c091b400814680d312003⟩,
  ⟨1, 2, 0x455c0f24981c58881120981f385c06800000075c0a342c0157b01b0a1c1a01dc0b34e4100aec0e30901342f80542f4044ee41903400302a0180a08170314020a041e16140911d8143abc0c140821141c07, 0x430c054eec00386001132c042c800b588c022f3c0742fc0a58900620980c20a00e1d5c091b440814680d312003⟩,
  ⟨1, 2, 0x455c0f24981c58881120981f385c06800000075c0a342c0157b01b0a1c1a01dc0b34e4100aec0e30901342f80542f4044ee41903400302a0180a08170314020a041e16140911d8143abc0c140821141c07, 0x430c054eec00386001132c042c800b588c022f3c0742fc0a58900620980c20a00e1d5c091b480814680d312003⟩,
  ⟨1, 2, 0x455c0f24981c58881120981f385c06800000075c0a342c0157b01b0a1c1a01dc0b34e4100aec0e30901342f80542f4044ee41903400302a0180a08170314020a041e16140911d8143abc0c140821141c07, 0x430c054eec00386001132c042c800b588c022f3c0742fc0a58900620980c20a00e1d5c091b4c0814680d312003⟩,
  ⟨1, 2, 0x455c0f24981c58881120981f385c06800000075c0a342c0157b01b0a1c1a01dc0b34e4100aec0e30901342f80542f4044ee41903400302a0180a08170314020a041e16140911d8143abc0c140821141c07, 0x430c054eec00386001132c042c800b588c022f3c0742fc0a58900620980c20a00e1d5c091b500814680d312003⟩,
  ⟨1, 2, 0x455c0f24981c58881120981f385c06800000075c0a342c0157b01b0a1c1a01dc0b34e4100aec0e30901342f80542f4044ee41903400302a0180a08170314020a041e16140911d8143abc0c140821141c07, 0x430c054eec00386001132c042c800b588c022f3c0742fc0a58900620980c20a00e1d5c091b580814680d312003⟩,
  ⟨1, 2, 0x455c0f24981c58881120981f385c06800000075c0a342c0157b01b0a1c1a01dc0b34e4100aec0e30901342f80542f4044ee41903400302a0180a08170314020a041e16140911d8143abc0c140821141c07, 0x430c054eec00386001132c042c800b588c022f3c0742fc0a58900620980c20a00e1d5c091b680814680d312003⟩,
  ⟨1, 2, 0x455c0f24981c58881120981f385c06800000075c0a342c0157b01b0a1c1a01dc0b34e4100aec0e30901342f80542f4044ee41903400302a0180a08170314020a041e16140911d8143abc0c140821141c07, 0x430c054eec00386001132c042c800b588c022f3c0742fc0a58900620980c20a00e1d5c091b6c0814680d312003⟩,
  ⟨1, 2, 0x455c0f24981c20989f5888111dc080385c06800000075c0a342c0157b01b0a1c1a01dc0b34e4100aec0e30901342f80542f4044ee41903400302a0180a08170314020a041e16140911d8143abc0c140821141c07, 0x430c054eec00386001132c042c800b588c022f3c0742fc0a58900620980c20a00e1d5c091b740814680d312003⟩,
  ⟨1, 2, 0x455c0f24981c58881120981f385c06800000075c0a342c0157b01b0a1c1a01dc0b34e4100aec0e30901342f80542f4044ee41903400302a0180a08170314020a041e16140911d8143abc0c140821141c07, 0x430c054eec00386001132c042c800b588c022f3c0742fc0a58900620980c20a00e1d5c091b700814680d312003⟩,
  ⟨1, 2, 0x455c0f272c1c57d811189c1f39b40680000008700a34900157d01b098c1a02380b3808100b5c0e30f4134494054490044ee41903500302b01809881703180209841e16180912a81441e80c14d42114f007, 0x44f0054eec00386001132c042c740b57dc02306c07442c0a58b806189c0c18a00e16900924940815900d337403⟩,
  ⟨1, 2, 0x455c0f26981c579811189c1f39b4068000000a0c0a34900157201b08cc1a02140b3808100b400e30f4134494054490044ee41903540302ac1808c81703180208c41e161c09127c1441e80c14bc2114c407, 0x44f0054eec00386001132c042c5c0b579c02306c07442c0a586006189c0c18a00e16900920280814e80d337403⟩,
  ⟨1, 2, 0x455c0f26981c579811189c1f39b4068000000a0c0a34900157201b08cc1a02140b3808100b400e30f4134494054490044ee41903540302ac1808c81703180208c41e161c09127c1441e80c14bc2114c407, 0x44f0054eec00386001132c042c5c0b579c02306c07442c0a586006189c0c18a00e169009202c0814e80d337403⟩,
  ⟨1, 2, 0x455c0f26981c579811189c1f39b4068000000a0c0a34900157201b08cc1a02140b3808100b400e30f4134494054490044ee41903540302ac1808c81703180208c41e161c09127c1441e80c14bc2114c407, 0x44f0054eec00386001132c042c5c0b579c02306c07442c0a586006189c0c18a00e16900920300814e80d337403⟩,
  ⟨1, 2, 0x455c0f26981c579811189c1f39b4068000000a0c0a34900157201b08cc1a02140b3808100b400e30f4134494054490044ee41903540302ac1808c81703180208c41e161c09127c1441e80c14bc2114c407, 0x44f0054eec00386001132c042c5c0b579c02306c07442c0a586006189c0c18a00e16900920380814e80d337403⟩,
  ⟨1, 2, 0x455c0f26981c579811189c1f39b4068000000a0c0a34900157201b08cc1a02140b3808100b400e30f4134494054490044ee41903540302ac1808c81703180208c41e161c09127c1441e80c14bc2114c407, 0x44f0054eec00386001132c042c5c0b579c02306c07442c0a586006189c0c18a00e169009203c0814e80d337403⟩,
  ⟨1, 2, 0x455c0f26981c579811189c1f39b4068000000a0c0a34900157201b08cc1a02140b3808100b400e30f4134494054490044ee41903540302ac1808c81703180208c41e161c09127c1441e80c14bc2114c407, 0x44f0054eec00386001132c042c5c0b579c02306c07442c0a586006189c0c18a00e16900920400814e80d337403⟩,
  ⟨1, 2, 0x455c0f26981c579811189c1f39b4068000000a0c0a34900157201b08cc1a02140b3808100b400e30f4134494054490044ee41903540302ac1808c81703180208c41e161c09127c1441e80c14bc2114c407, 0x44f0054eec00386001132c042c5c0b579c02306c07442c0a586006189c0c18a00e16900920440814e80d337403⟩,
  ⟨1, 2, 0x455c0f26981c579811189c1f39b4068000000a0c0a34900157201b08cc1a02140b3808100b400e30f4134494054490044ee41903540302ac1808c81703180208c41e161c09127c1441e80c14bc2114c407, 0x44f0054eec00386001132c042c5c0b579c02306c07442c0a586006189c0c18a00e16900920480814e80d337403⟩,
  ⟨1, 2, 0x455c0f26981c579811189c1f39b4068000000a0c0a34900157201b08cc1a02140b3808100b400e30f4134494054490044ee41903540302ac1808c81703180208c41e161c09127c1441e80c14bc2114c407, 0x44f0054eec00386001132c042c5c0b579c02306c07442c0a586006189c0c18a00e169009204c0814e80d337403⟩,
  ⟨1, 2, 0x455c0f26981c579811189c1f39b4068000000a0c0a34900157201b08cc1a02140b3808100b400e30f4134494054490044ee41903540302ac1808c81703180208c41e161c09127c1441e80c14bc2114c407, 0x44f0054eec00386001132c042c5c0b579c02306c07442c0a586006189c0c18a00e16900920500814e80d337403⟩,
  ⟨1, 2, 0x455c0f26981c579811189c1f39b4068000000a0c0a34900157201b08cc1a02140b3808100b400e30f4134494054490044ee41903540302ac1808c81703180208c41e161c09127c1441e80c14bc2114c407, 0x44f0054eec00386001132c042c5c0b579c02306c07442c0a586006189c0c18a00e16900920540814e80d337403⟩,
  ⟨1, 2, 0x455c0f26981c579811189c1f39b4068000000a0c0a34900157201b08cc1a02140b3808100b400e30f4134494054490044ee41903540302ac1808c81703180208c41e161c09127c1441e80c14bc2114c407, 0x44f0054eec00386001132c042c5c0b579c02306c07442c0a586006189c0c18a00e16900920580814e80d337403⟩,
  ⟨1, 2, 0x455c0f26981c579811189c1f39b4068000000a0c0a34900157201b08cc1a02140b3808100b400e30f4134494054490044ee41903540302ac1808c81703180208c41e161c09127c1441e80c14bc2114c407, 0x44f0054eec00386001132c042c5c0b579c02306c07442c0a586006189c0c18a00e169009205c0814e80d337403⟩,
  ⟨1, 2, 0x455c0f26981c579811189c1f39b4068000000a0c0a34900157201b08cc1a02140b3808100b400e30f4134494054490044ee41903540302ac1808c81703180208c41e161c09127c1441e80c14bc2114c407, 0x44f0054eec00386001132c042c5c0b579c02306c07442c0a586006189c0c18a00e16900920600814e80d337403⟩,
  ⟨1, 2, 0x455c0f26981c579811189c1f39b4068000000a0c0a34900157201b08cc1a02140b3808100b400e30f4134494054490044ee41903540302ac1808c81703180208c41e161c09127c1441e80c14bc2114c407, 0x44f0054eec00386001132c042c5c0b579c02306c07442c0a586006189c0c18a00e16900920640814e80d337403⟩,
  ⟨1, 2, 0x455c0f26981c579811189c1f39b4068000000a0c0a34900157201b08cc1a02140b3808100b400e30f4134494054490044ee41903540302ac1808c81703180208c41e161c09127c1441e80c14bc2114c407, 0x44f0054eec00386001132c042c5c0b579c02306c07442c0a586006189c0c18a00e169009206c0814e80d337403⟩,
  ⟨1, 2, 0x455c0f26981c579811189c1f39b4068000000a0c0a34900157201b08cc1a02140b3808100b400e30f4134494054490044ee41903540302ac1808c81703180208c41e161c09127c1441e80c14bc2114c407, 0x44f0054eec00386001132c042c5c0b579c02306c07442c0a586006189c0c18a00e169009207c0814e80d337403⟩,
  ⟨1, 2, 0x455c0f26981c579811189c1f39b4068000000a0c0a34900157201b08cc1a02140b3808100b400e30f4134494054490044ee41903540302ac1808c81703180208c41e161c09127c1441e80c14bc2114c407, 0x44f0054eec00386001132c042c5c0b579c02306c07442c0a586006189c0c18a00e16900920800814e80d337403⟩,
  ⟨1, 2, 0x455c0f26981c189c9f57981117248039b4068000000a0c0a34900157201b08cc1a02140b3808100b400e30f4134494054490044ee41903540302ac1808c81703180208c41e161c09127c1441e80c14bc2114c407, 0x44f0054eec00386001132c042c5c0b579c02306c07442c0a586006189c0c18a00e16900920880814e80d337403⟩,
  ⟨1, 2, 0x455c0f26981c579811189c1f39b4068000000a0c0a34900157201b08cc1a02140b3808100b400e30f4134494054490044ee41903540302ac1808c81703180208c41e161c09127c1441e80c14bc2114c407, 0x44f0054eec00386001132c042c5c0b579c02306c07442c0a586006189c0c18a00e16900920840814e80d337403⟩,
  ⟨1, 2, 0x455c0f26981c579811189c1f39b4068000000a0c0a34900157201b08cc1a02140b3808100b400e30f4134494054490044ee41903540302ac1808c81703180208c41e161c09127c1441e80c14bc2114c407, 0x44f0054eec00386001132c042c5c0b579c02306c07442c0a586006189c0c18a00e16900920880814e80d337403⟩,
  ⟨1, 2, 0x455c0f26981c579811189c1f39b4068000000a0c0a34900157201b08cc1a02140b3808100b400e30f4134494054490044ee41903540302ac1808c81703180208c41e161c09127c1441e80c14bc2114c407, 0x44f0054eec00386001132c042c5c0b579c02306c07442c0a586006189c0c18a00e169009208c0814e80d337403⟩,
  ⟨1, 2, 0x455c0f279c1c577411189c1f39b40680000007bc0a34900157201b08181a02500b3808100bd00e30f4134494054490044ee41903500302b81808141703180208101e161809130c1441e80c155421155807, 0x44f0054eec00386001132c042c480b577802306c07442c0a57ac06189c0c18a00e16900925640815a00d337403⟩,
  ⟨1, 2, 0x455c0f26981c579811189c1f39b4068000000a0c0a34900157201b08cc1a02140b3808100b400e30f4134494054490044ee41903540302ac1808c81703180208c41e161c09127c1441e80c14bc2114c407, 0x44f0054eec00386001132c042c5c0b579c02306c07442c0a586006189c0c18a00e16900923940814e80d337403⟩,
  ⟨1, 2, 0x455c0f27281c57b811189c1f39b4068000000a100a34900157201b092c1a02300b3808100b580e30f4134494054490044ee41903540302b41809281703180209241e161c0912a41441e80c14d02114ec07, 0x44f0054eec00386001132c042c600b57bc02306c07442c0a58b006189c0c18a00e169009239c08158c0d337403⟩,
  ⟨1, 2, 0x455c0f27281c57b811189c1f39b4068000000a100a34900157201b092c1a02300b3808100b580e30f4134494054490044ee41903540302b41809281703180209241e161c0912a41441e80c14d02114ec07, 0x44f0054eec00386001132c042c600b57bc02306c07442c0a58b006189c0c18a00e16900923a008158c0d337403⟩,
  ⟨1, 2, 0x455c0f27281c57b811189c1f39b4068000000a100a34900157201b092c1a02300b3808100b580e30f4134494054490044ee41903540302b41809281703180209241e161c0912a41441e80c14d02114ec07, 0x44f0054eec00386001132c042c600b57bc02306c07442c0a58b006189c0c18a00e16900923a408158c0d337403⟩,
  ⟨1, 2, 0x455c0f27281c57b811189c1f39b4068000000a100a34900157201b092c1a02300b3808100b580e30f4134494054490044ee41903540302b41809281703180209241e161c0912a41441e80c14d02114ec07, 0x44f0054eec00386001132c042c600b57bc02306c07442c0a58b006189c0c18a00e16900923ac08158c0d337403⟩,
  ⟨1, 2, 0x455c0f27281c57b811189c1f39b4068000000a100a34900157201b092c1a02300b3808100b580e30f4134494054490044ee41903540302b41809281703180209241e161c0912a41441e80c14d02114ec07, 0x44f0054eec00386001132c042c600b57bc02306c07442c0a58b006189c0c18a00e16900923b008158c0d337403⟩,
  ⟨1, 2, 0x455c0f27281c57b811189c1f39b4068000000a100a34900157201b092c1a02300b3808100b580e30f4134494054490044ee41903540302b41809281703180209241e161c0912a41441e80c14d02114ec07, 0x44f0054eec00386001132c042c600b57bc02306c07442c0a58b006189c0c18a00e16900923b408158c0d337403⟩,
  ⟨1, 2, 0x455c0f27281c57b811189c1f39b4068000000a100a34900157201b092c1a02300b3808100b580e30f4134494054490044ee41903540302b41809281703180209241e161c0912a41441e80c14d02114ec07, 0x44f0054eec00386001132c042c600b57bc02306c07442c0a58b006189c0c18a00e16900923b808158c0d337403⟩,
  ⟨1, 2, 0x455c0f27281c57b811189c1f39b4068000000a100a34900157201b092c1a02300b3808100b580e30f4134494054490044ee41903540302b41809281703180209241e161c0912a41441e80c14d02114ec07, 0x44f0054eec00386001132c042c600b57bc02306c07442c0a58b006189c0c18a00e16900923bc08158c0d337403⟩,
  ⟨1, 2, 0x455c0f27281c57b811189c1f39b4068000000a100a34900157201b092c1a02300b3808100b580e30f4134494054490044ee41903540302b41809281703180209241e161c0912a41441e80c14d02114ec07, 0x44f0054eec00386001132c042c600b57bc02306c07442c0a58b006189c0c18a00e16900923c008158c0d337403⟩,
  ⟨1, 2, 0x455c0f27281c57b811189c1f39b4068000000a100a34900157201b092c1a02300b3808100b580e30f4134494054490044ee41903540302b41809281703180209241e161c0912a41441e80c14d02114ec07, 0x44f0054eec00386001132c042c600b57bc02306c07442c0a58b006189c0c18a00e16900923c408158c0d337403⟩,
  ⟨1, 2, 0x455c0f27281c57b811189c1f39b4068000000a100a34900157201b092c1a02300b3808100b580e30f4134494054490044ee41903540302b41809281703180209241e161c0912a41441e80c14d02114ec07, 0x44f0054eec00386001132c042c600b57bc02306c07442c0a58b006189c0c18a00e16900923c808158c0d337403⟩]

/-- States 576 to 639. -/
def states0576 : List PackedRow := [
  ⟨1, 2, 0x455c0f27281c57b811189c1f39b4068000000a100a34900157201b092c1a02300b3808100b580e30f4134494054490044ee41903540302b41809281703180209241e161c0912a41441e80c14d02114ec07, 0x44f0054eec00386001132c042c600b57bc02306c07442c0a58b006189c0c18a00e16900923cc08158c0d337403⟩,
  ⟨1, 2, 0x455c0f27281c57b811189c1f39b4068000000a100a34900157201b092c1a02300b3808100b580e30f4134494054490044ee41903540302b41809281703180209241e161c0912a41441e80c14d02114ec07, 0x44f0054eec00386001132c042c600b57bc02306c07442c0a58b006189c0c18a00e16900923d008158c0d337403⟩,
  ⟨1, 2, 0x455c0f27281c57b811189c1f39b4068000000a100a34900157201b092c1a02300b3808100b580e30f4134494054490044ee41903540302b41809281703180209241e161c0912a41441e80c14d02114ec07, 0x44f0054eec00386001132c042c600b57bc02306c07442c0a58b006189c0c18a00e16900923d408158c0d337403⟩,
  ⟨1, 2, 0x455c0f27281c57b811189c1f39b4068000000a100a34900157201b092c1a02300b3808100b580e30f4134494054490044ee41903540302b41809281703180209241e161c0912a41441e80c14d02114ec07, 0x44f0054eec00386001132c042c600b57bc02306c07442c0a58b006189c0c18a00e16900923d808158c0d337403⟩,
  ⟨1, 2, 0x455c0f27281c57b811189c1f39b4068000000a100a34900157201b092c1a02300b3808100b580e30f4134494054490044ee41903540302b41809281703180209241e161c0912a41441e80c14d02114ec07, 0x44f0054eec00386001132c042c600b57bc02306c07442c0a58b006189c0c18a00e16900923e008158c0d337403⟩,
  ⟨1, 2, 0x455c0f27281c57b811189c1f39b4068000000a100a34900157201b092c1a02300b3808100b580e30f4134494054490044ee41903540302b41809281703180209241e161c0912a41441e80c14d02114ec07, 0x44f0054eec00386001132c042c600b57bc02306c07442c0a58b006189c0c18a00e16900923f008158c0d337403⟩,
  ⟨1, 2, 0x455c0f27281c57b811189c1f39b4068000000a100a34900157201b092c1a02300b3808100b580e30f4134494054490044ee41903540302b41809281703180209241e161c0912a41441e80c14d02114ec07, 0x44f0054eec00386001132c042c600b57bc02306c07442c0a58b006189c0c18a00e16900923f408158c0d337403⟩,
  ⟨1, 2, 0x455c0f27281c189c9f57b81117248039b4068000000a100a34900157201b092c1a02300b3808100b580e30f4134494054490044ee41903540302b41809281703180209241e161c0912a41441e80c14d02114ec07, 0x44f0054eec00386001132c042c600b57bc02306c07442c0a58b006189c0c18a00e16900923fc08158c0d337403⟩,
  ⟨1, 2, 0x455c0f27281c57b811189c1f39b4068000000a100a34900157201b092c1a02300b3808100b580e30f4134494054490044ee41903540302b41809281703180209241e161c0912a41441e80c14d02114ec07, 0x44f0054eec00386001132c042c600b57bc02306c07442c0a58b006189c0c18a00e16900923f808158c0d337403⟩,
  ⟨1, 2, 0x455c0f27281c57b811189c1f39b4068000000a100a34900157201b092c1a02300b3808100b580e30f4134494054490044ee41903540302b41809281703180209241e161c0912a41441e80c14d02114ec07, 0x44f0054eec00386001132c042c600b57bc02306c07442c0a58b006189c0c18a00e16900923fc08158c0d337403⟩,
  ⟨1, 2, 0x455c0f27281c57b811189c1f39b4068000000a100a34900157201b092c1a02300b3808100b580e30f4134494054490044ee41903540302b41809281703180209241e161c0912a41441e80c14d02114ec07, 0x44f0054eec00386001132c042c600b57bc02306c07442c0a58b006189c0c18a00e169009240008158c0d337403⟩,
  ⟨1, 2, 0x455c0f27a01c577411189c1f39b40680000007bc0a34900157201b08181a02540b3808100bd40e30f4134494054490044ee41903500302b81808141703180208101e16180913101441e80c155c21156007, 0x44f0054eec00386001132c042c480b577802306c07442c0a57cc06189c0c18a00e16900925640815a40d337403⟩,
  ⟨1, 2, 0x455c0f26981c579811189c1f39b4068000000a0c0a34900157201b08cc1a02140b3808100b400e30f4134494054490044ee41903540302ac1808c81703180208c41e161c09127c1441e80c14bc2114c407, 0x44f0054eec00386001132c042c5c0b579c02306c07442c0a586006189c0c18a00e169009240c0814e80d337403⟩,
  ⟨1, 2, 0x455c0f272c1c57d811189c1f39b40680000008700a34900157d01b098c1a02380b3808100b5c0e30f4134494054490044ee41903500302b01809881703180209841e16180912a81441e80c14d42114f007, 0x44f0054eec00386001132c042c740b57dc02306c07442c0a58b806189c0c18a00e16900924280815900d337403⟩,
  ⟨1, 2, 0x455c0f272c1c57d811189c1f39b40680000008700a34900157d01b098c1a02380b3808100b5c0e30f4134494054490044ee41903500302b01809881703180209841e16180912a81441e80c14d42114f007, 0x44f0054eec00386001132c042c740b57dc02306c07442c0a58b806189c0c18a00e169009242c0815900d337403⟩,
  ⟨1, 2, 0x455c0f272c1c57d811189c1f39b40680000008700a34900157d01b098c1a02380b3808100b5c0e30f4134494054490044ee41903500302b01809881703180209841e16180912a81441e80c14d42114f007, 0x44f0054eec00386001132c042c740b57dc02306c07442c0a58b806189c0c18a00e16900924300815900d337403⟩,
  ⟨1, 2, 0x455c0f272c1c57d811189c1f39b40680000008700a34900157d01b098c1a02380b3808100b5c0e30f4134494054490044ee41903500302b01809881703180209841e16180912a81441e80c14d42114f007, 0x44f0054eec00386001132c042c740b57dc02306c07442c0a58b806189c0c18a00e16900924380815900d337403⟩,
  ⟨1, 2, 0x455c0f272c1c57d811189c1f39b40680000008700a34900157d01b098c1a02380b3808100b5c0e30f4134494054490044ee41903500302b01809881703180209841e16180912a81441e80c14d42114f007, 0x44f0054eec00386001132c042c740b57dc02306c07442c0a58b806189c0c18a00e169009243c0815900d337403⟩,
  ⟨1, 2, 0x455c0f272c1c57d811189c1f39b40680000008700a34900157d01b098c1a02380b3808100b5c0e30f4134494054490044ee41903500302b01809881703180209841e16180912a81441e80c14d42114f007, 0x44f0054eec00386001132c042c740b57dc02306c07442c0a58b806189c0c18a00e16900924400815900d337403⟩,
  ⟨1, 2, 0x455c0f272c1c57d811189c1f39b40680000008700a34900157d01b098c1a02380b3808100b5c0e30f4134494054490044ee41903500302b01809881703180209841e16180912a81441e80c14d42114f007, 0x44f0054eec00386001132c042c740b57dc02306c07442c0a58b806189c0c18a00e16900924440815900d337403⟩,
  ⟨1, 2, 0x455c0f272c1c57d811189c1f39b40680000008700a34900157d01b098c1a02380b3808100b5c0e30f4134494054490044ee41903500302b01809881703180209841e16180912a81441e80c14d42114f007, 0x44f0054eec00386001132c042c740b57dc02306c07442c0a58b806189c0c18a00e16900924480815900d337403⟩,
  ⟨1, 2, 0x455c0f272c1c57d811189c1f39b40680000008700a34900157d01b098c1a02380b3808100b5c0e30f4134494054490044ee41903500302b01809881703180209841e16180912a81441e80c14d42114f007, 0x44f0054eec00386001132c042c740b57dc02306c07442c0a58b806189c0c18a00e169009244c0815900d337403⟩,
  ⟨1, 2, 0x455c0f272c1c57d811189c1f39b40680000008700a34900157d01b098c1a02380b3808100b5c0e30f4134494054490044ee41903500302b01809881703180209841e16180912a81441e80c14d42114f007, 0x44f0054eec00386001132c042c740b57dc02306c07442c0a58b806189c0c18a00e16900924500815900d337403⟩,
  ⟨1, 2, 0x455c0f272c1c57d811189c1f39b40680000008700a34900157d01b098c1a02380b3808100b5c0e30f4134494054490044ee41903500302b01809881703180209841e16180912a81441e80c14d42114f007, 0x44f0054eec00386001132c042c740b57dc02306c07442c0a58b806189c0c18a00e16900924540815900d337403⟩,
  ⟨1, 2, 0x455c0f272c1c57d811189c1f39b40680000008700a34900157d01b098c1a02380b3808100b5c0e30f4134494054490044ee41903500302b01809881703180209841e16180912a81441e80c14d42114f007, 0x44f0054eec00386001132c042c740b57dc02306c07442c0a58b806189c0c18a00e16900924580815900d337403⟩,
  ⟨1, 2, 0x455c0f272c1c57d811189c1f39b40680000008700a34900157d01b098c1a02380b3808100b5c0e30f4134494054490044ee41903500302b01809881703180209841e16180912a81441e80c14d42114f007, 0x44f0054eec00386001132c042c740b57dc02306c07442c0a58b806189c0c18a00e169009245c0815900d337403⟩,
  ⟨1, 2, 0x455c0f272c1c57d811189c1f39b40680000008700a34900157d01b098c1a02380b3808100b5c0e30f4134494054490044ee41903500302b01809881703180209841e16180912a81441e80c14d42114f007, 0x44f0054eec00386001132c042c740b57dc02306c07442c0a58b806189c0c18a00e16900924600815900d337403⟩,
  ⟨1, 2, 0x455c0f272c1c57d811189c1f39b40680000008700a34900157d01b098c1a02380b3808100b5c0e30f4134494054490044ee41903500302b01809881703180209841e16180912a81441e80c14d42114f007, 0x44f0054eec00386001132c042c740b57dc02306c07442c0a58b806189c0c18a00e16900924640815900d337403⟩,
  ⟨1, 2, 0x455c0f272c1c57d811189c1f39b40680000008700a34900157d01b098c1a02380b3808100b5c0e30f4134494054490044ee41903500302b01809881703180209841e16180912a81441e80c14d42114f007, 0x44f0054eec00386001132c042c740b57dc02306c07442c0a58b806189c0c18a00e169009246c0815900d337403⟩,
  ⟨1, 2, 0x455c0f272c1c57d811189c1f39b40680000008700a34900157d01b098c1a02380b3808100b5c0e30f4134494054490044ee41903500302b01809881703180209841e16180912a81441e80c14d42114f007, 0x44f0054eec00386001132c042c740b57dc02306c07442c0a58b806189c0c18a00e169009247c0815900d337403⟩,
  ⟨1, 2, 0x455c0f272c1c57d811189c1f39b40680000008700a34900157d01b098c1a02380b3808100b5c0e30f4134494054490044ee41903500302b01809881703180209841e16180912a81441e80c14d42114f007, 0x44f0054eec00386001132c042c740b57dc02306c07442c0a58b806189c0c18a00e16900924800815900d337403⟩,
  ⟨1, 2, 0x455c0f272c1c189c9f57d81117248039b40680000008700a34900157d01b098c1a02380b3808100b5c0e30f4134494054490044ee41903500302b01809881703180209841e16180912a81441e80c14d42114f007, 0x44f0054eec00386001132c042c740b57dc02306c07442c0a58b806189c0c18a00e16900924880815900d337403⟩,
  ⟨1, 2, 0x455c0f272c1c57d811189c1f39b40680000008700a34900157d01b098c1a02380b3808100b5c0e30f4134494054490044ee41903500302b01809881703180209841e16180912a81441e80c14d42114f007, 0x44f0054eec00386001132c042c740b57dc02306c07442c0a58b806189c0c18a00e16900924840815900d337403⟩,
  ⟨1, 2, 0x455c0f272c1c57d811189c1f39b40680000008700a34900157d01b098c1a02380b3808100b5c0e30f4134494054490044ee41903500302b01809881703180209841e16180912a81441e80c14d42114f007, 0x44f0054eec00386001132c042c740b57dc02306c07442c0a58b806189c0c18a00e16900924880815900d337403⟩,
  ⟨1, 2, 0x455c0f272c1c57d811189c1f39b40680000008700a34900157d01b098c1a02380b3808100b5c0e30f4134494054490044ee41903500302b01809881703180209841e16180912a81441e80c14d42114f007, 0x44f0054eec00386001132c042c740b57dc02306c07442c0a58b806189c0c18a00e169009248c0815900d337403⟩,
  ⟨1, 2, 0x455c0f27a41c577411189c1f39b40680000007bc0a34900157201b08181a02580b3808100bd80e30f4134494054490044ee41903500302b81808141703180208101e16180913141441e80c156421156807, 0x44f0054eec00386001132c042c480b577802306c07442c0a57ec06189c0c18a00e16900925640815a80d337403⟩,
  ⟨1, 2, 0x455c0f26981c579811189c1f39b4068000000a0c0a34900157201b08cc1a02140b3808100b400e30f4134494054490044ee41903540302ac1808c81703180208c41e161c09127c1441e80c14bc2114c407, 0x44f0054eec00386001132c042c5c0b579c02306c07442c0a586006189c0c18a00e16900924100814e80d337403⟩,
  ⟨1, 2, 0x455c0f26941c57f41120981f385c06800000099c0a342c0153a01b0a141a02080b34e4100b3c0e30901342f80542f4044ee41903400302a41809981703140209941e1614091278143abc0c14b82114c007, 0x430c054eec00386001132c042c780b57fc022f3c0742fc0a58000620980c20a00e1d5c0920100814d80d312003⟩,
  ⟨1, 2, 0x455c0f26941c57f41120981f385c06800000099c0a342c0153a01b0a141a02080b34e4100b3c0e30901342f80542f4044ee41903400302a41809981703140209941e1614091278143abc0c14b82114c007, 0x430c054eec00386001132c042c780b57fc022f3c0742fc0a58000620980c20a00e1d5c0920140814d80d312003⟩,
  ⟨1, 2, 0x455c0f26941c57f41120981f385c06800000099c0a342c0153a01b0a141a02080b34e4100b3c0e30901342f80542f4044ee41903400302a41809981703140209941e1614091278143abc0c14b82114c007, 0x430c054eec00386001132c042c780b57fc022f3c0742fc0a58000620980c20a00e1d5c09201c0814d80d312003⟩,
  ⟨1, 2, 0x455c0f25f41c585811189c1f39b40680000009a00a34900157901b09fc1a02200b3808100b080e30f4134494054490044ee41903540302a81809f81703180209f41e161c09122c1441e80c146421147407, 0x44f0054eec00386001132c042c7c0b585c02306c07442c0a588406189c0c18a00e1690091d540814c80d337403⟩,
  ⟨1, 2, 0x455c0f25f41c585811189c1f39b40680000009a00a34900157901b09fc1a02200b3808100b080e30f4134494054490044ee41903540302a81809f81703180209f41e161c09122c1441e80c146421147407, 0x44f0054eec00386001132c042c7c0b585c02306c07442c0a588406189c0c18a00e1690091ccc0814c80d337403⟩,
  ⟨1, 2, 0x455c0f25f41c585811189c1f39b40680000009a00a34900157901b09fc1a02200b3808100b080e30f4134494054490044ee41903540302a81809f81703180209f41e161c09122c1441e80c146421147407, 0x44f0054eec00386001132c042c7c0b585c02306c07442c0a588406189c0c18a00e1690091cd00814c80d337403⟩,
  ⟨1, 2, 0x455c0f25f41c585811189c1f39b40680000009a00a34900157901b09fc1a02200b3808100b080e30f4134494054490044ee41903540302a81809f81703180209f41e161c09122c1441e80c146421147407, 0x44f0054eec00386001132c042c7c0b585c02306c07442c0a588406189c0c18a00e1690091cd40814c80d337403⟩,
  ⟨1, 2, 0x455c0f25f41c585811189c1f39b40680000009a00a34900157901b09fc1a02200b3808100b080e30f4134494054490044ee41903540302a81809f81703180209f41e161c09122c1441e80c146421147407, 0x44f0054eec00386001132c042c7c0b585c02306c07442c0a588406189c0c18a00e1690091cdc0814c80d337403⟩,
  ⟨1, 2, 0x455c0f25f41c585811189c1f39b40680000009a00a34900157901b09fc1a02200b3808100b080e30f4134494054490044ee41903540302a81809f81703180209f41e161c09122c1441e80c146421147407, 0x44f0054eec00386001132c042c7c0b585c02306c07442c0a588406189c0c18a00e1690091ce00814c80d337403⟩,
  ⟨1, 2, 0x455c0f25f41c585811189c1f39b40680000009a00a34900157901b09fc1a02200b3808100b080e30f4134494054490044ee41903540302a81809f81703180209f41e161c09122c1441e80c146421147407, 0x44f0054eec00386001132c042c7c0b585c02306c07442c0a588406189c0c18a00e1690091ce40814c80d337403⟩,
  ⟨1, 2, 0x455c0f25f41c585811189c1f39b40680000009a00a34900157901b09fc1a02200b3808100b080e30f4134494054490044ee41903540302a81809f81703180209f41e161c09122c1441e80c146421147407, 0x44f0054eec00386001132c042c7c0b585c02306c07442c0a588406189c0c18a00e1690091ce80814c80d337403⟩,
  ⟨1, 2, 0x455c0f25f41c585811189c1f39b40680000009a00a34900157901b09fc1a02200b3808100b080e30f4134494054490044ee41903540302a81809f81703180209f41e161c09122c1441e80c146421147407, 0x44f0054eec00386001132c042c7c0b585c02306c07442c0a588406189c0c18a00e1690091cec0814c80d337403⟩,
  ⟨1, 2, 0x455c0f25f41c585811189c1f39b40680000009a00a34900157901b09fc1a02200b3808100b080e30f4134494054490044ee41903540302a81809f81703180209f41e161c09122c1441e80c146421147407, 0x44f0054eec00386001132c042c7c0b585c02306c07442c0a588406189c0c18a00e1690091cf00814c80d337403⟩,
  ⟨1, 2, 0x455c0f25f41c585811189c1f39b40680000009a00a34900157901b09fc1a02200b3808100b080e30f4134494054490044ee41903540302a81809f81703180209f41e161c09122c1441e80c146421147407, 0x44f0054eec00386001132c042c7c0b585c02306c07442c0a588406189c0c18a00e1690091cf40814c80d337403⟩,
  ⟨1, 2, 0x455c0f25f41c585811189c1f39b40680000009a00a34900157901b09fc1a02200b3808100b080e30f4134494054490044ee41903540302a81809f81703180209f41e161c09122c1441e80c146421147407, 0x44f0054eec00386001132c042c7c0b585c02306c07442c0a588406189c0c18a00e1690091cf80814c80d337403⟩,
  ⟨1, 2, 0x455c0f25f41c585811189c1f39b40680000009a00a34900157901b09fc1a02200b3808100b080e30f4134494054490044ee41903540302a81809f81703180209f41e161c09122c1441e80c146421147407, 0x44f0054eec00386001132c042c7c0b585c02306c07442c0a588406189c0c18a00e1690091cfc0814c80d337403⟩,
  ⟨1, 2, 0x455c0f25f41c585811189c1f39b40680000009a00a34900157901b09fc1a02200b3808100b080e30f4134494054490044ee41903540302a81809f81703180209f41e161c09122c1441e80c146421147407, 0x44f0054eec00386001132c042c7c0b585c02306c07442c0a588406189c0c18a00e1690091d000814c80d337403⟩,
  ⟨1, 2, 0x455c0f25f41c585811189c1f39b40680000009a00a34900157901b09fc1a02200b3808100b080e30f4134494054490044ee41903540302a81809f81703180209f41e161c09122c1441e80c146421147407, 0x44f0054eec00386001132c042c7c0b585c02306c07442c0a588406189c0c18a00e1690091d040814c80d337403⟩,
  ⟨1, 2, 0x455c0f25f41c585811189c1f39b40680000009a00a34900157901b09fc1a02200b3808100b080e30f4134494054490044ee41903540302a81809f81703180209f41e161c09122c1441e80c146421147407, 0x44f0054eec00386001132c042c7c0b585c02306c07442c0a588406189c0c18a00e1690091d080814c80d337403⟩,
  ⟨1, 2, 0x455c0f25f41c585811189c1f39b40680000009a00a34900157901b09fc1a02200b3808100b080e30f4134494054490044ee41903540302a81809f81703180209f41e161c09122c1441e80c146421147407, 0x44f0054eec00386001132c042c7c0b585c02306c07442c0a588406189c0c18a00e1690091d100814c80d337403⟩,
  ⟨1, 2, 0x455c0f25f41c585811189c1f39b40680000009a00a34900157901b09fc1a02200b3808100b080e30f4134494054490044ee41903540302a81809f81703180209f41e161c09122c1441e80c146421147407, 0x44f0054eec00386001132c042c7c0b585c02306c07442c0a588406189c0c18a00e1690091d200814c80d337403⟩,
  ⟨1, 2, 0x455c0f25f41c585811189c1f39b40680000009a00a34900157901b09fc1a02200b3808100b080e30f4134494054490044ee41903540302a81809f81703180209f41e161c09122c1441e80c146421147407, 0x44f0054eec00386001132c042c7c0b585c02306c07442c0a588406189c0c18a00e1690091d240814c80d337403⟩,
  ⟨1, 2, 0x455c0f25f41c189c9f58581117248039b40680000009a00a34900157901b09fc1a02200b3808100b080e30f4134494054490044ee41903540302a81809f81703180209f41e161c09122c1441e80c146421147407, 0x44f0054eec00386001132c042c7c0b585c02306c07442c0a588406189c0c18a00e1690091d480814c80d337403⟩,
  ⟨1, 2, 0x455c0f25f41c585811189c1f39b40680000009a00a34900157901b09fc1a02200b3808100b080e30f4134494054490044ee41903540302a81809f81703180209f41e161c09122c1441e80c146421147407, 0x44f0054eec00386001132c042c7c0b585c02306c07442c0a588406189c0c18a00e1690091d280814c80d337403⟩,
  ⟨1, 2, 0x455c0f25f41c585811189c1f39b40680000009a00a34900157901b09fc1a02200b3808100b080e30f4134494054490044ee41903540302a81809f81703180209f41e161c09122c1441e80c146421147407, 0x44f0054eec00386001132c042c7c0b585c02306c07442c0a588406189c0c18a00e1690091d480814c80d337403⟩,
  ⟨1, 2, 0x455c0f25f41c585811189c1f39b40680000009a00a34900157901b09fc1a02200b3808100b080e30f4134494054490044ee41903540302a81809f81703180209f41e161c09122c1441e80c146421147407, 0x44f0054eec00386001132c042c7c0b585c02306c07442c0a588406189c0c18a00e1690091d4c0814c80d337403⟩,
  ⟨1, 2, 0x455c0f27ac1c577411189c1f39b40680000007bc0a34900157201b08181a02600b3808100be00e30f4134494054490044ee41903500302b81808141703180208101e16180913201441e80c157c21158007, 0x44f0054eec00386001132c042c480b577802306c07442c0a587006189c0c18a00e16900925640815b00d337403⟩]

/-- States 640 to 703. -/
def states0640 : List PackedRow := [
  ⟨1, 2, 0x455c0f26981c579811189c1f39b4068000000a0c0a34900157201b08cc1a02140b3808100b400e30f4134494054490044ee41903540302ac1808c81703180208c41e161c09127c1441e80c14bc2114c407, 0x44f0054eec00386001132c042c5c0b579c02306c07442c0a586006189c0c18a00e16900924200814e80d337403⟩,
  ⟨1, 2, 0x455c0f24981c58881120981f385c06800000075c0a342c0157b01b0a1c1a01dc0b34e4100aec0e30901342f80542f4044ee41903400302a0180a08170314020a041e16140911d8143abc0c140821141c07, 0x430c054eec00386001132c042c800b588c022f3c0742fc0a58900620980c20a00e1d5c091b740814680d312003⟩,
  ⟨1, 2, 0x455c0f24981c58881120981f385c06800000075c0a342c0157b01b0a1c1a01dc0b34e4100aec0e30901342f80542f4044ee41903400302a0180a08170314020a041e16140911d8143abc0c140821141c07, 0x430c054eec00386001132c042c800b588c022f3c0742fc0a58900620980c20a00e1d5c091b780814680d312003⟩,
  ⟨1, 2, 0x455c0f26981c579811189c1f39b4068000000a0c0a34900157201b08cc1a02140b3808100b400e30f4134494054490044ee41903540302ac1808c81703180208c41e161c09127c1441e80c14bc2114c407, 0x44f0054eec00386001132c042c5c0b579c02306c07442c0a586006189c0c18a00e16900920940814e80d337403⟩,
  ⟨1, 2, 0x455c0f27281c57b811189c1f39b4068000000a100a34900157201b092c1a02300b3808100b580e30f4134494054490044ee41903540302b41809281703180209241e161c0912a41441e80c14d02114ec07, 0x44f0054eec00386001132c042c600b57bc02306c07442c0a58b006189c0c18a00e169009240808158c0d337403⟩,
  ⟨1, 2, 0x455c0f27a81c577411189c1f39b40680000007bc0a34900157201b08181a025c0b3808100bdc0e30f4134494054490044ee41903500302b81808141703180208101e16180913181441e80c156c21157007, 0x44f0054eec00386001132c042c480b577802306c07442c0a581406189c0c18a00e16900925640815ac0d337403⟩,
  ⟨1, 2, 0x455c0f26981c579811189c1f39b4068000000a0c0a34900157201b08cc1a02140b3808100b400e30f4134494054490044ee41903540302ac1808c81703180208c41e161c09127c1441e80c14bc2114c407, 0x44f0054eec00386001132c042c5c0b579c02306c07442c0a586006189c0c18a00e16900924140814e80d337403⟩,
  ⟨1, 2, 0x455c0f27b01c577411189c1f39b40680000007bc0a34900157201b08181a02640b3808100be40e30f4134494054490044ee41903500302b81808141703180208101e16180913241441e80c158421158807, 0x44f0054eec00386001132c042c480b577802306c07442c0a58a006189c0c18a00e16900925640815b40d337403⟩,
  ⟨1, 2, 0x455c0f26981c579811189c1f39b4068000000a0c0a34900157201b08cc1a02140b3808100b400e30f4134494054490044ee41903540302ac1808c81703180208c41e161c09127c1441e80c14bc2114c407, 0x44f0054eec00386001132c042c5c0b579c02306c07442c0a586006189c0c18a00e169009249c0814e80d337403⟩,
  ⟨7, 4, 0x53b05253ac5453a822386c53288c4b800c23455c0f80000080082b0510254ef01053c80e53c41380382480447734282834dc5134d4501d6c34800533308c0938681453c03606940845680c45644c02bc9d456020, 0x45d82145d41f3ab4050bf425132c040bec240bf03b4300504ef456⟩,
  ⟨7, 4, 0x53b05253ac5453a822386c53288c4b800c23455c0f80000080082b0510254ef01053c80e53c41380382480447734282834dc5134d45019bc34800533308c0938681453c03606940845680c45644c02bc9d456020, 0x45d8214d701f3ab4050bf425132c040bec240bf03b4300504ef456⟩,
  ⟨7, 4, 0x53b05253ac5453a822386c53288c4b800c23455c0f80000080082b0510254ef01053c80e53c41380382480447734282834dc5134d4501ab834800533308c0938681453c03606940845680c45644c02bc9d456020, 0x45d8214d701f3ab4050bf425132c040bec240bf03b4300504ef456⟩,
  ⟨6, 4, 0x800c2327e443388c2980000083dc0180082b05102534fc1044d40544d00481000380382483d8021d6c348004ab069c08816820434534434807, 0x45d82145d41f4eec00386001388c1153f402⟩,
  ⟨6, 4, 0x800c2327e443388c2980000083dc0180082b05102534fc1044d40544d00481000380382483d80219bc348004ab069c08816820434534434807, 0x45d8214d701f4eec00386001388c1153f402⟩,
  ⟨6, 4, 0x800c2327e443388c2980000083dc0180082b05102534fc1044d40544d00481000380382483d8021ab8348004ab069c08816820434534434807, 0x45d8214d701f4eec00386001388c1153f402⟩,
  ⟨6, 4, 0x53b05253ac544f20bb53a822350053288c4b800c23455c0f80000080082b0510254ef01053c80e53c41380382480447734282834dc5134d4501d6c34386814069c08540c0c54084c800497, 0x45d82145d41f3ab4050bf425132c040bec240c083b⟩,
  ⟨6, 4, 0x53b05253ac544f20bb53a822350053288c4b800c23455c0f80000080082b0510254ef01053c80e53c41380382480447734282834dc5134d45019bc34386814069c08540c0c54084c800497, 0x45d8214d701f3ab4050bf425132c040bec240c083b⟩,
  ⟨6, 4, 0x53b05253ac544f20bb53a822350053288c4b800c23455c0f80000080082b0510254ef01053c80e53c41380382480447734282834dc5134d4501ab834386814069c08540c0c54084c800497, 0x45d8214d701f3ab4050bf425132c040bec240c083b⟩,
  ⟨7, 4, 0x53b05253ac5453a822386c53288c4b455c0f80000080082b0510254ef01053c80e53c41300802434282834dc5134d450800535308c0938681453c03606400845680c45644c02bc9d456020, 0x3ab4050bf425132c040bec240bf03b4300504ef456⟩,
  ⟨7, 4, 0x53b05253ac5453a8223a985328dc4b455c0f80000080082b0510254ef01053c80e53c41300c02434282834dc5134d450800535308c093a941453c03606400845680c45644c02cc9d456020, 0x3ab4050bf425132c040bec240bf03b4300504ef456⟩,
  ⟨7, 4, 0x53b05253ac5453a822386c53288c4b455c0f80000080082b0510254ef01053c80e53c41301202434282834dc5134d450800535308c0938681453c03606400845680c45644c02dc9d456020, 0x3ab4050bf425132c040bec240bf03b4300504ef456⟩,
  ⟨6, 4, 0x28e849800c2328144327ec26388c2980000080082b05102527e80e44d40544d0048100038038248044771d6c348004ab069c0881682038888d, 0x45d82145d41f28ec22388c11⟩,
  ⟨6, 4, 0x28e849800c2328144327ec26388c2980000080082b05102527e80e44d40544d00481000380382480447719bc348004ab069c0881682038888d, 0x45d8214d701f28ec22388c11⟩,
  ⟨6, 4, 0x28e849800c2328144327ec26388c2980000080082b05102527e80e44d40544d0048100038038248044771ab8348004ab069c0881682038888d, 0x45d8214d701f28ec22388c11⟩,
  ⟨6, 4, 0x800c23281443388c2980000080082b05102527e80e44d40544d0048100038038248044771d6c348004ab069c08816820388878, 0x45d82145d41f388c11⟩,
  ⟨6, 4, 0x800c23388c2980000080082b05102544d40544d0048100038038248044771d6c34069c088004ef388847, 0x45d82145d41f388c11⟩,
  ⟨1, 2, 0x800000820162, 0x0⟩,
  ⟨1, 2, 0x800000820562, 0x0⟩,
  ⟨6, 4, 0x800c23281443388c2980000080082b05102527e80e44d40544d00481000380382480447719bc348004ab069c08816820388878, 0x45d8214d701f388c11⟩,
  ⟨6, 4, 0x800c23388c2980000080082b05102544d40544d00481000380382480447719bc34069c088004ef388847, 0x45d8214d701f388c11⟩,
  ⟨6, 4, 0x800c23281443388c2980000080082b05102527e80e44d40544d0048100038038248044771ab8348004ab069c08816820388878, 0x45d8214d701f388c11⟩,
  ⟨6, 4, 0x800c23388c2980000080082b05102544d40544d0048100038038248044771ab834069c088004ef388847, 0x45d8214d701f388c11⟩,
  ⟨6, 4, 0x53b05253ac544f20bb53a822350053288c4b455c0f80000080082b0510254ef01053c80e53c41300802434282834dc5134d450386814064408540c0c54084c8004a0, 0x3ab4050bf425132c040bec240c083b⟩,
  ⟨1, 2, 0x80000080c503, 0x0⟩,
  ⟨1, 2, 0x800000824903, 0x0⟩,
  ⟨1, 2, 0x800000824d03, 0x0⟩,
  ⟨1, 2, 0x800000825103, 0x0⟩,
  ⟨1, 2, 0x800000825503, 0x0⟩,
  ⟨6, 4, 0x53b05253ac544f20bb53a82238405328dc4b455c0f80000080082b0510254ef01053c80e53c41300c02434282834dc5134d4503a9414064408540c0c54084c8004a0, 0x3ab4050bf425132c040bec240c083b⟩,
  ⟨6, 4, 0x53b05253ac544f20bb53a822350053288c4b455c0f80000080082b0510254ef01053c80e53c41301202434282834dc5134d450386814064408540c0c54084c8004a0, 0x3ab4050bf425132c040bec240c083b⟩,
  ⟨7, 3, 0x800000804c0180082b05a025380c1080480207c0088005ce57807f578407, 0x4eec00386001578802⟩,
  ⟨6, 4, 0x800c2380000080082b0510258038248044771d6c348004ab069c0880907c, 0x45d82145d41f⟩,
  ⟨6, 4, 0x800c2380000080082b0510258038248044771d6c348004ab069c0880847c, 0x45d82145d41f⟩,
  ⟨6, 4, 0x53b05253ac544f20bb53a822350053288c4b455c0f80000080082b057c254ef01053c80e53c41334282834dc5134d450386814076008540c0c54084c8004a7, 0x3ab4050bf425132c040bec240c083b⟩,
  ⟨6, 4, 0x800c2380000080082b05102580382480447719bc348004ab069c0880907c, 0x45d8214d701f⟩,
  ⟨6, 4, 0x800c2380000080082b05102580382480447719bc348004ab069c0880847c, 0x45d8214d701f⟩,
  ⟨6, 4, 0x5728525724545184bb57f82237c45328bc4b455c0f80000080082b057c2553681058c00e572c1334c02838045138005039b81407600858c40c58184c8004a7, 0x42d805403025132c0440282440343b⟩,
  ⟨6, 4, 0x800c2380000080082b0510258038248044771ab8348004ab069c0880907c, 0x45d8214d701f⟩,
  ⟨6, 4, 0x800c2380000080082b0510258038248044771ab8348004ab069c0880847c, 0x45d8214d701f⟩,
  ⟨6, 4, 0x53b05253ac544f20bb53a82238405328dc4b455c0f80000080082b057c254ef01053c80e53c41334282834dc5134d4503a9414076008540c0c54084c8004a7, 0x3ab4050bf425132c040bec240c083b⟩,
  ⟨6, 3, 0x803023800000804c0180082b056425380c10804802805cc180bc088004a8557c7f558007, 0x4eec00386001558402⟩,
  ⟨6, 3, 0x800000804c0180082b05a025380c108048028030a380b4088004a857807f578407, 0x4eec00386001578802⟩,
  ⟨6, 3, 0x800000804c0180082b05a025380c108048028070a307c0088004a857807f578407, 0x4eec00386001578802⟩,
  ⟨6, 3, 0x800000804c0180082b056425380c1080480206dc088005cf557c7f558007, 0x4eec00386001558402⟩,
  ⟨6, 4, 0x800000804c0180082b05a02535141080480207c0088005d057807f578407, 0x4eec00386001578802⟩,
  ⟨6, 4, 0x800000804c0180082b05102534fc1000802480480206440880049753ec7f53f007, 0x4eec0038600153f402⟩,
  ⟨6, 4, 0x800000804c0180082b0510253514108048020644088005d153ec7f53f007, 0x4eec0038600153f402⟩,
  ⟨6, 3, 0x800000804c0180082b056425380c108070248048028160db06dc088004a8557c7f558007, 0x4eec00386001558402⟩,
  ⟨6, 4, 0x800000804c0180082b051025383c1000c02480480206440880049753ec7f53f007, 0x4eec0038600153f402⟩,
  ⟨6, 4, 0x800000804c0180082b05b825351410804802081c088005d258947f589807, 0x4eec00386001589c02⟩,
  ⟨6, 4, 0x800000804c0180082b051025383c1001202480480206440880049753ec7f53f007, 0x4eec0038600153f402⟩,
  ⟨1, 2, 0x8000004f6d6345fdd386c048, 0xc408e0b4c93⟩,
  ⟨1, 5, 0xb145780000080e91f, 0x0⟩,
  ⟨6, 3, 0x800000804c0180082b056425380c1005448981347e80480206dc088005d4557c7f558007, 0x4eec00386001558402⟩]

/-- States 704 to 767. -/
def states0704 : List PackedRow := [
  ⟨1, 5, 0xb105780000081191f, 0x0⟩,
  ⟨6, 3, 0x800000804c0180082b05e825380c10805c450f2c2480480280302a81a8088004a857c07f57c407, 0x4eec0038600157c802⟩,
  ⟨7, 3, 0x800000804c0180082b061825380c1080480209a4088005d558647f586807, 0x4eec00386001586c02⟩,
  ⟨6, 4, 0x800000804c0180082b057c2534fc1080480207600880052058087f580c07, 0x4eec00386001581002⟩,
  ⟨1, 2, 0x80000080e91f, 0x0⟩,
  ⟨1, 2, 0x80000082091f, 0x0⟩,
  ⟨6, 3, 0x800000804c0180082b05e825380c100f2c2480480208d40880053657c07f57c407, 0x4eec0038600157c802⟩,
  ⟨6, 3, 0x800000804c0180082b05e825380c100f502480480208d40880053657c07f57c407, 0x4eec0038600157c802⟩,
  ⟨6, 3, 0x800000804c0180082b05e825380c10805c4580480280302a81a8088004a857c07f57c407, 0x4eec0038600157c802⟩,
  ⟨1, 5, 0x80000082c921, 0x0⟩,
  ⟨1, 5, 0x80000082cd21, 0x0⟩,
  ⟨1, 5, 0x80000080e921, 0x0⟩,
  ⟨1, 5, 0xb2c57800000811964, 0x0⟩,
  ⟨1, 5, 0x800000820921, 0x0⟩,
  ⟨1, 5, 0xb345780000080e964, 0x0⟩,
  ⟨6, 4, 0x800000804c0180082b057c2535141080480207600880052058087f580c07, 0x4eec00386001581002⟩,
  ⟨6, 3, 0x800000804c0180082b05d025380c108048020874088005d657a07f57a407, 0x4eec0038600157a802⟩,
  ⟨6, 4, 0x800000804c0180082b057c25383c1080480207600880052058087f580c07, 0x4eec00386001581002⟩,
  ⟨6, 4, 0x800000804c0180082b057c2538581080480207600880052058087f580c07, 0x4eec00386001581002⟩,
  ⟨1, 2, 0x8000004f6d63846c48, 0xca88e⟩,
  ⟨1, 2, 0x80000055f01d00480980b937, 0xdc820⟩,
  ⟨1, 2, 0x80000055f41d00480980b937, 0xdc820⟩,
  ⟨6, 3, 0x800000804c0180082b05e825380c1080480208d40880053657c07f57c407, 0x4eec0038600157c802⟩,
  ⟨6, 3, 0x800000804c0180082b060025380c108048020934088005d757e07f57e407, 0x4eec0038600157e802⟩,
  ⟨6, 3, 0x800000804c0180082b05a025380c1080702480480207c0088004a857807f578407, 0x4eec00386001578802⟩,
  ⟨6, 3, 0x800000804c0180082b05a025380c1005448981347e80480207c0088005d857807f578407, 0x4eec00386001578802⟩,
  ⟨1, 2, 0x80000086c5d9, 0x0⟩,
  ⟨6, 3, 0x800000804c0180082b05a025380c1080480206b0088004a857807f578407, 0x4eec00386001578802⟩,
  ⟨1, 2, 0x800000009d3883e1da, 0xc987c⟩,
  ⟨1, 5, 0xcac5780000082b448, 0x0⟩,
  ⟨1, 5, 0x8000000d086886c9db, 0x0⟩,
  ⟨1, 2, 0x80000086cd39, 0x0⟩,
  ⟨1, 5, 0xd0c5780000080c048, 0x0⟩,
  ⟨1, 5, 0xd105780000080c048, 0x0⟩,
  ⟨1, 5, 0xd205780000082b848, 0x0⟩,
  ⟨1, 5, 0xd405780000080c048, 0x0⟩,
  ⟨1, 5, 0xd5c5780000080a848, 0x0⟩,
  ⟨1, 5, 0xd605780000081f448, 0x0⟩,
  ⟨1, 5, 0xd645780000082c048, 0x0⟩,
  ⟨1, 5, 0xd7c5780000080a848, 0x0⟩,
  ⟨1, 5, 0xd805780000080a848, 0x0⟩,
  ⟨1, 5, 0xd985780000081fc48, 0x0⟩,
  ⟨1, 5, 0xdac5780000081ac48, 0x0⟩,
  ⟨1, 2, 0x80000086d139, 0x0⟩,
  ⟨1, 2, 0x80000086d539, 0x0⟩,
  ⟨1, 2, 0x80000000480980b937, 0xdc820⟩,
  ⟨1, 2, 0x800000809965, 0x0⟩,
  ⟨1, 2, 0x800000809965, 0x0⟩,
  ⟨1, 5, 0x800000832566, 0x0⟩,
  ⟨1, 5, 0x800000832966, 0x0⟩,
  ⟨6, 3, 0x800000804c0180082b05a025380c108048020724088004a857807f578407, 0x4eec00386001578802⟩,
  ⟨6, 3, 0x800000804c0180082b05a025380c108048020800088004a857807f578407, 0x4eec00386001578802⟩,
  ⟨6, 3, 0x800000804c0180082b05a025380c1080480208b4088004a857807f578407, 0x4eec00386001578802⟩,
  ⟨6, 3, 0x800000804c0180082b05a025380c108048020914088004a857807f578407, 0x4eec00386001578802⟩,
  ⟨6, 3, 0x800000804c0180082b05a025380c108048020974088004a857807f578407, 0x4eec00386001578802⟩,
  ⟨6, 3, 0x800000804c0180082b05a025380c1080480207a8088004a857807f578407, 0x4eec00386001578802⟩,
  ⟨6, 3, 0x800000804c0180082b05a025380c1080480209e4088004a857807f578407, 0x4eec00386001578802⟩,
  ⟨6, 3, 0x800000804c0180082b05a025380c108048020860088004a857807f578407, 0x4eec00386001578802⟩,
  ⟨1, 2, 0x80000086d848, 0x0⟩,
  ⟨1, 2, 0x80000081e848, 0x0⟩,
  ⟨1, 2, 0x800000847048, 0x0⟩,
  ⟨1, 2, 0x80000081e848, 0x0⟩,
  ⟨1, 2, 0x80000086dc48, 0x0⟩,
  ⟨1, 2, 0x80000086e048, 0x0⟩]

/-- States 768 to 831. -/
def states0768 : List PackedRow := [
  ⟨1, 2, 0x80000086e448, 0x0⟩,
  ⟨1, 2, 0x80000086e848, 0x0⟩,
  ⟨1, 2, 0x800000847448, 0x0⟩,
  ⟨1, 2, 0x800000847848, 0x0⟩,
  ⟨1, 2, 0x80000086ec48, 0x0⟩,
  ⟨1, 2, 0x800000825848, 0x0⟩,
  ⟨1, 2, 0x800000825848, 0x0⟩,
  ⟨1, 2, 0x80000086f048, 0x0⟩,
  ⟨1, 2, 0x800000847c48, 0x0⟩,
  ⟨1, 2, 0x800000847c48, 0x0⟩,
  ⟨1, 2, 0x80000086f448, 0x0⟩,
  ⟨1, 2, 0x800000848048, 0x0⟩,
  ⟨1, 2, 0x800000848448, 0x0⟩,
  ⟨1, 2, 0x80000086f848, 0x0⟩,
  ⟨1, 2, 0x80000086fc48, 0x0⟩,
  ⟨1, 2, 0x800000870048, 0x0⟩,
  ⟨1, 2, 0x800000846c48, 0x0⟩,
  ⟨1, 2, 0x800000870448, 0x0⟩,
  ⟨1, 2, 0x800000870848, 0x0⟩,
  ⟨1, 2, 0x800000870c48, 0x0⟩,
  ⟨1, 2, 0x800000871048, 0x0⟩,
  ⟨8, 2, 0x546832111c3858d43758e4221118231114262b402f2b3c403afc068000002b183a459c01545c16111015110c1202704e45400b44b40544b0042b54450c5403019c022b382834343554c82a147c3b46180c2b34202e5807, 0x5388002b4c1b2b381e2b481a2b441d467c4338d8192b20183110172ab81650042a5830012b3c14546c154ea803⟩,
  ⟨1, 2, 0x800000848848, 0x0⟩,
  ⟨1, 2, 0x800000848c48, 0x0⟩,
  ⟨1, 2, 0x800000849048, 0x0⟩,
  ⟨1, 2, 0x800000825848, 0x0⟩,
  ⟨1, 2, 0x800000813848, 0x0⟩,
  ⟨1, 2, 0x800000813848, 0x0⟩,
  ⟨1, 2, 0x800000813848, 0x0⟩,
  ⟨1, 2, 0x800000813848, 0x0⟩,
  ⟨1, 2, 0x80000082d048, 0x0⟩,
  ⟨1, 2, 0x80000082d048, 0x0⟩,
  ⟨1, 2, 0x80000082d048, 0x0⟩,
  ⟨1, 2, 0x80000082d048, 0x0⟩,
  ⟨1, 2, 0x80000082d048, 0x0⟩,
  ⟨1, 2, 0x800000849448, 0x0⟩,
  ⟨1, 2, 0x800000849848, 0x0⟩,
  ⟨1, 2, 0x800000849c48, 0x0⟩,
  ⟨1, 2, 0x800000871448, 0x0⟩,
  ⟨1, 2, 0x800000871848, 0x0⟩,
  ⟨1, 2, 0x800000871c48, 0x0⟩,
  ⟨1, 2, 0x800000872048, 0x0⟩,
  ⟨1, 2, 0x800000872448, 0x0⟩,
  ⟨1, 2, 0x80000080c048, 0x0⟩,
  ⟨1, 2, 0x800000825c48, 0x0⟩,
  ⟨1, 2, 0x800000825c48, 0x0⟩,
  ⟨1, 2, 0x800000825c48, 0x0⟩,
  ⟨1, 2, 0x80000084a048, 0x0⟩,
  ⟨1, 2, 0x800000832c48, 0x0⟩,
  ⟨1, 2, 0x800000832c48, 0x0⟩,
  ⟨1, 2, 0x80000084a448, 0x0⟩,
  ⟨1, 2, 0x800000813848, 0x0⟩,
  ⟨1, 2, 0x800000813c48, 0x0⟩,
  ⟨1, 2, 0x800000813c48, 0x0⟩,
  ⟨1, 2, 0x800000813c48, 0x0⟩,
  ⟨1, 2, 0x800000833048, 0x0⟩,
  ⟨1, 2, 0x800000833048, 0x0⟩,
  ⟨1, 2, 0x800000826048, 0x0⟩,
  ⟨1, 2, 0x800000826048, 0x0⟩,
  ⟨1, 2, 0x800000826048, 0x0⟩,
  ⟨1, 2, 0x800000826048, 0x0⟩,
  ⟨1, 2, 0x80000084a848, 0x0⟩,
  ⟨1, 2, 0x800000826048, 0x0⟩,
  ⟨1, 2, 0x800000826048, 0x0⟩]

/-- States 832 to 895. -/
def states0832 : List PackedRow := [
  ⟨1, 2, 0x800000872848, 0x0⟩,
  ⟨1, 2, 0x800000872c48, 0x0⟩,
  ⟨1, 2, 0x800000873048, 0x0⟩,
  ⟨1, 2, 0x80000080a848, 0x0⟩,
  ⟨1, 2, 0x80000080a848, 0x0⟩,
  ⟨1, 2, 0x800000826448, 0x0⟩,
  ⟨1, 2, 0x800000826448, 0x0⟩,
  ⟨1, 2, 0x800000826448, 0x0⟩,
  ⟨1, 2, 0x80000081f448, 0x0⟩,
  ⟨1, 2, 0x800000826848, 0x0⟩,
  ⟨1, 2, 0x800000826848, 0x0⟩,
  ⟨1, 2, 0x80000084ac48, 0x0⟩,
  ⟨1, 2, 0x800000833448, 0x0⟩,
  ⟨1, 2, 0x800000833448, 0x0⟩,
  ⟨1, 2, 0x800000813c48, 0x0⟩,
  ⟨1, 2, 0x800000813c48, 0x0⟩,
  ⟨1, 2, 0x80000080a848, 0x0⟩,
  ⟨1, 2, 0x800000826848, 0x0⟩,
  ⟨1, 2, 0x800000833848, 0x0⟩,
  ⟨1, 2, 0x800000833848, 0x0⟩,
  ⟨1, 2, 0x80000084b048, 0x0⟩,
  ⟨1, 2, 0x80000084b048, 0x0⟩,
  ⟨1, 2, 0x800000873448, 0x0⟩,
  ⟨1, 2, 0x80000081ac48, 0x0⟩,
  ⟨1, 2, 0x80000084b448, 0x0⟩,
  ⟨1, 2, 0x80000081fc48, 0x0⟩,
  ⟨1, 2, 0x800000826c48, 0x0⟩,
  ⟨1, 2, 0x80000081b048, 0x0⟩,
  ⟨1, 2, 0x80000081b048, 0x0⟩,
  ⟨1, 2, 0x80000081b048, 0x0⟩,
  ⟨1, 2, 0x80000081b048, 0x0⟩,
  ⟨1, 2, 0x80000081ac48, 0x0⟩,
  ⟨1, 2, 0x80000081ac48, 0x0⟩,
  ⟨1, 2, 0x800000826c48, 0x0⟩,
  ⟨1, 2, 0x800000826c48, 0x0⟩,
  ⟨1, 2, 0x80000083e448, 0x0⟩,
  ⟨1, 2, 0x80000083e448, 0x0⟩,
  ⟨1, 2, 0x80000083e448, 0x0⟩,
  ⟨1, 2, 0x80000084b848, 0x0⟩,
  ⟨1, 2, 0x800000833c48, 0x0⟩,
  ⟨1, 2, 0x800000833c48, 0x0⟩,
  ⟨1, 2, 0x800000834048, 0x0⟩,
  ⟨1, 2, 0x800000834048, 0x0⟩,
  ⟨1, 2, 0x800000873848, 0x0⟩,
  ⟨1, 2, 0x80000084bc48, 0x0⟩,
  ⟨1, 2, 0x80000083e848, 0x0⟩,
  ⟨1, 2, 0x80000083e848, 0x0⟩,
  ⟨1, 2, 0x80000083e848, 0x0⟩,
  ⟨1, 2, 0x800000873c48, 0x0⟩,
  ⟨1, 2, 0x80000082ac48, 0x0⟩,
  ⟨1, 2, 0x80000082b048, 0x0⟩,
  ⟨1, 2, 0x80000082c848, 0x0⟩,
  ⟨1, 2, 0x80000082cc48, 0x0⟩,
  ⟨8, 2, 0x546832111c3858d43758e4221118231114262b402f2b3c403afc068000002b183a459c01545c16111015110c1202704e45400b44b40544b0041e3c450c5403019c022b382834343555c02a147c3b46180c2b34202e5807, 0x5388002b4c1b2b381e2b481a2b441d4dac4338d8192b20183110172ab81650042a5830012b3c14546c154ea803⟩,
  ⟨8, 2, 0x546832111c3858d43758e4221118231114262b402f2b3c403afc068000002b183a459c01545c16111015110c1202704e45400b44b40544b0042f80450c5403019c022b382834343556102a147c3b46180c2b34202e5807, 0x5388002b4c1b2b381e2b481a2b441d4dfc4338d8192b20183110172ab81650042a5830012b3c14546c154ea803⟩,
  ⟨8, 2, 0x546832111c3858d43758e4221118231114262b402f2b3c403afc068000002b183a459c01545c16111015110c1202704e45400b44b40544b0041790450c5403019c022b382834343556842a147c3b46180c2b34202e5807, 0x5388002b4c1b2b381e2b481a2b441d4e304338d8192b20183110172ab81650042a5830012b3c14546c154ea803⟩,
  ⟨8, 2, 0x546832111c3858d43758e4221118231114262b402f2b3c403afc068000002b183a459c01545c16111015110c1202704e45400b44b40544b00432bc450c5403019c022b382834343556c42a147c3b46180c2b34202e5807, 0x5388002b4c1b2b381e2b481a2b441d4e504338d8192b20183110172ab81650042a5830012b3c14546c154ea803⟩,
  ⟨8, 2, 0x546832111c3858d43758e4221118231114262b402f2b3c403afc068000002b183a459c01545c16111015110c1202704e45400b44b40544b0042bb0450c5403019c022b3828343435147c3b46180c2b34202e5807, 0x5388002b4c1b2b381e2b481a2b441d511c4338d8192b20183110172ab81650042a5830012b3c14546c154ea803⟩,
  ⟨8, 2, 0x546832111c3858d43758e4221118231114262b402f2b3c403afc068000002b183a459c01545c16111015110c1202704e45400b44b40544b0042bc4450c5403019c022b3828343435147c3b46180c2b34202e5807, 0x5388002b4c1b2b381e2b481a2b441d511c4338d8192b20183110172ab81650042a5830012b3c14546c154ea803⟩,
  ⟨8, 2, 0x546832111c3858d43758e4221118231114262b402f2b3c403afc068000002b183a459c01545c16111015110c1202704e45400b44b40544b0041f00450c5403019c022b3828343435147c3b46180c2b34202e5807, 0x5388002b4c1b2b381e2b481a2b441d511c4338d8192b20183110172ab81650042a5830012b3c14546c154ea803⟩,
  ⟨8, 2, 0x546832111c3858d43758e4221118231114262b402f2b3c403afc068000002b183a459c01545c16111015110c1202704e45400b44b40544b0041f24450c5403019c022b3828343435147c3b46180c2b34202e5807, 0x5388002b4c1b2b381e2b481a2b441d511c4338d8192b20183110172ab81650042a5830012b3c14546c154ea803⟩,
  ⟨8, 2, 0x546832111c3858d43758e4221118231114262b402f2b3c403afc068000002b183a459c01545c16111015110c1202704e45400b44b40544b0042fe4450c5403019c022b3828343435147c3b46180c2b34202e5807, 0x5388002b4c1b2b381e2b481a2b441d511c4338d8192b20183110172ab81650042a5830012b3c14546c154ea803⟩,
  ⟨8, 2, 0x546832111c3858d43758e4221118231114262b402f2b3c403afc068000002b183a459c01545c16111015110c1202704e45400b44b40544b0043004450c5403019c022b3828343435147c3b46180c2b34202e5807, 0x5388002b4c1b2b381e2b481a2b441d511c4338d8192b20183110172ab81650042a5830012b3c14546c154ea803⟩,
  ⟨8, 2, 0x546832111c3858d43758e4221118231114262b402f2b3c403afc068000002b183a459c01545c16111015110c1202704e45400b44b40544b0041848450c5403019c022b3828343435147c3b46180c2b34202e5807, 0x5388002b4c1b2b381e2b481a2b441d511c4338d8192b20183110172ab81650042a5830012b3c14546c154ea803⟩]

/-- States 896 to 959. -/
def states0896 : List PackedRow := [
  ⟨8, 2, 0x546832111c3858d43758e4221118231114262b402f2b3c403afc068000002b183a459c01545c16111015110c1202704e45400b44b40544b0041868450c5403019c022b3828343435147c3b46180c2b34202e5807, 0x5388002b4c1b2b381e2b481a2b441d511c4338d8192b20183110172ab81650042a5830012b3c14546c154ea803⟩,
  ⟨8, 2, 0x546832111c3858d43758e4221118231114262b402f2b3c403afc068000002b183a459c01545c16111015110c1202704e45400b44b40544b0043324450c5403019c022b3828343435147c3b46180c2b34202e5807, 0x5388002b4c1b2b381e2b481a2b441d511c4338d8192b20183110172ab81650042a5830012b3c14546c154ea803⟩,
  ⟨8, 2, 0x546832111c3858d43758e4221118231114262b402f2b3c403afc068000002b183a459c01545c16111015110c1202704e45400b44b40544b0043348450c5403019c022b3828343435147c3b46180c2b34202e5807, 0x5388002b4c1b2b381e2b481a2b441d511c4338d8192b20183110172ab81650042a5830012b3c14546c154ea803⟩,
  ⟨8, 2, 0x546832111c3858d43758e4221118231114262b402f2b3c403afc068000002b183a459c01545c16111015110c1202704e45400b44b40544b0040c5403019c022b3828343435147c3b46180c2b34202e5807, 0x5388002b4c1b2b381e2b481a2b441d511c4338d8192b20183110172ab81650042a5830012b3c14546c154ea803⟩,
  ⟨1, 2, 0x80000084c0c3, 0x0⟩,
  ⟨1, 2, 0x80000084c0c3, 0x0⟩,
  ⟨1, 2, 0x8000008740c3, 0x0⟩,
  ⟨1, 2, 0x80000082d4c3, 0x0⟩,
  ⟨1, 2, 0x80000082d4c3, 0x0⟩,
  ⟨1, 2, 0x80000082d4c3, 0x0⟩,
  ⟨1, 2, 0x80000082d4c3, 0x0⟩,
  ⟨1, 2, 0x80000082d4c3, 0x0⟩,
  ⟨1, 2, 0x8000008324c3, 0x0⟩,
  ⟨1, 2, 0x8000008328c3, 0x0⟩,
  ⟨8, 2, 0x5468320f00385464372c90a45460220efc230ef8262c8c2f2b3c403afc068000002b183a459c01545c160ef4150ef012436c0b44b40544b0040c5403019c022b3828343435147c3b46180c2b34202abc07, 0x4f78002c943c2b4c1b4fa85f2b384e2b481a2b441d315c194fa47d30ac182e50172ab8165470012b3c14546c15461c03⟩,
  ⟨8, 2, 0x5468320f00385464372c90a45460220efc230ef8262c8c2f2b3c403afc068000002b183a459c01545c160ef4150ef012436c0b44b40544b0040c5403019c022b3828343435147c3b46180c2b34202abc07, 0x4f78002c943c2b4c1b2b384e2b481a2b441d2d4c192b94532b20182b1c172ab8165470012b3c14546c15461c03⟩,
  ⟨8, 2, 0x5468320f00385464372c90a45460220efc230ef8262c8c2f2b3c403afc068000002b183a459c01545c160ef4150ef012436c0b44b40544b0040c5403019c022b3828343435147c3b46180c2b34202abc07, 0x4f78002c943c2b4c1b2b384e2b481a2b441d2d68192bc0532b20182b1c172ab8165470012b3c14546c15461c03⟩,
  ⟨8, 2, 0x55a8320f883855a4372d18a45828220f84230f80261c482f1e0c4041f4068000001c283a459c0155a0160f7c150f781244f40b42f80542f4040dd40301b0021e082834943514a43b46180c1e04201af007, 0x5324001c4c3c1e201b1e084e1e1c1a1e181d1eb4191eb0531e14181c34171c301655ac011e0c145740154d8c03⟩,
  ⟨8, 2, 0x55a8320f883855a4372d18a45828220f84230f80261c482f1e0c4041f4068000001c283a459c0155a0160f7c150f781244f40b42f80542f4040dd40301b0021e082834943514a43b46180c1e04201af007, 0x5324001c4c3c1e201b1e084e1e1c1a1e181d1f18191f14531e14181c34171c301655ac011e0c145740154d8c03⟩,
  ⟨8, 2, 0x5604320fc4385600372d20a458a4220fc0230fbc262ef42f2f6040425c068000002ee03a459c0155fc160fb8150fb412450c0b4428054424040dd80301b4022f5c28349c3514a83b46180c2f58202c3407, 0x5344002ef83c2f701b2f5c4e2f6c1a2f681d2fd0192fcc532ee4182d04172d90165608012f60145794154dec03⟩,
  ⟨8, 2, 0x5604320fc4385600372d20a458a4220fc0230fbc262ef42f2f6040425c068000002ee03a459c0155fc160fb8150fb412450c0b4428054424040dd80301b4022f5c28349c3514a83b46180c2f58202c3407, 0x5344002ef83c2f701b2f5c4e2f6c1a2f681d2ffc192ff8532ee4182d04172d90165608012f60145794154dec03⟩,
  ⟨8, 2, 0x5678321000385674372d24a458b4220ffc230ff82616842f17684042700680000016703a459c015670160ff4150ff01245140b4494054490040ddc0301b80217642834a43514ac3b46180c176020164c07, 0x53500016883c177c1b17644e17781a17741d180419180053177018167c17167816567c0117681457b4154e2003⟩,
  ⟨8, 2, 0x5678321000385674372d24a458b4220ffc230ff82616842f17684042700680000016703a459c015670160ff4150ff01245140b4494054490040ddc0301b80217642834a43514ac3b46180c176020164c07, 0x53500016883c177c1b17644e17781a17741d186019185c53177018167c17167816567c0117681457b4154e2003⟩,
  ⟨8, 2, 0x56bc3210343856b8372d0ca458bc22103023102c2630c82f32a04042780680000030e03a459c0156b416102815102412451c0b44e40544e0040de00301bc02329c2834ac3514b03b46180c3298202d8407, 0x535c0030d03c32b01b329c4e32ac1a32a81d33081933045330e4182f041730281656c00132a01457f0154e4403⟩,
  ⟨8, 2, 0x56bc3210343856b8372d0ca458bc22103023102c2630c82f32a04042780680000030e03a459c0156b416102815102412451c0b44e40544e0040de00301bc02329c2834ac3514b03b46180c3298202d8407, 0x535c0030d03c32b01b329c4e32ac1a32a81d333c1933385330e4182f041730281656c00132a01457f0154e4403⟩,
  ⟨8, 2, 0x56bc3210343856b8372d0ca458bc22103023102c2630c82f32a04042780680000030e03a459c0156b416102815102412451c0b44e40544e0040de00301bc02329c2834ac3514b03b46180c3298202d8407, 0x535c0030d03c32b01b406c5f329c4e32ac1a32a81d34781940687d328c182f741730281656c00132a01457f0154e4403⟩,
  ⟨8, 2, 0x546832107438582c372d28a458d022107023106c2638102f2b3c403afc068000002b183a459c01545c1610681510641245240b44d40544d0040c5403019c022b382834c83514b43b46180c2b3420311407, 0x53700038143c2b4c1b2b384e2b481a2b441d39e0192b94532b20183424172ab8165744012b3c14546c154eb003⟩,
  ⟨8, 2, 0x546832107438582c372d28a458d022107023106c2638102f2b3c403afc068000002b183a459c01545c1610681510641245240b44d40544d0040c5403019c022b382834c83514b43b46180c2b3420311407, 0x53700038143c2b4c1b2b384e2b481a2b441d39fc192bc0532b20183424172ab8165744012b3c14546c154eb003⟩,
  ⟨8, 2, 0x5604320fc4385600372d20a458a4220fc0230fbc262ef42f2f6040425c068000002ee03a459c0155fc160fb8150fb412450c0b4428054424040dd80301b4022f5c28349c3514a83b46180c2f58202c3407, 0x5344002ef83c2f701b39985f2f5c4e2f6c1a2f681d30cc1939947d2f50182d88172d90165608012f60145794154dec03⟩,
  ⟨8, 2, 0x546832111c3858d4372d2ca458e42211182311142634cc2f2b3c403afc068000002b183a459c01545c16111015110c1245400b44b40544b0040c5403019c022b3828343435147c3b46180c2b3420308407, 0x53880034d03c2b4c1b2b384e2b481a2b441d3818192b94532b20183110172ab8165830012b3c14546c154ea803⟩,
  ⟨8, 2, 0x546832111c3858d4372d2ca458e42211182311142634cc2f2b3c403afc068000002b183a459c01545c16111015110c1245400b44b40544b0040c5403019c022b3828343435147c3b46180c2b3420308407, 0x53880034d03c2b4c1b2b384e2b481a2b441d382c192bc0532b20183110172ab8165830012b3c14546c154ea803⟩,
  ⟨9, 2, 0x800000820d3a, 0x0⟩,
  ⟨9, 2, 0x80000082113a, 0x0⟩,
  ⟨9, 2, 0x80000082153a, 0x0⟩,
  ⟨10, 2, 0x5468320f00385464375460220efc230ef8262b402f2b3c403afc068000002b183a459c01545c160ef4150ef012436c0b44b40544b00438dcca0c5403019c022b3828343435147c3b46180c2b34202ca407, 0x4f78002b4c1b2b381e2b481a2b441d38e0192b20182b1c172ab8165470012b3c14546c15461c03⟩,
  ⟨8, 2, 0x5468320f00385464375460220efc230ef8262b402f2b3c403afc068000002b183a459c01545c160ef4150ef012436c0b44b40544b0042b9c450c5403019c022b3828343435147c3b46180c2b34202ab007, 0x4f78002b4c1b2b381e2b481a2b441d43d0192b20182b1c172ab8165470012b3c14546c15461c03⟩,
  ⟨8, 2, 0x5468320f00385464375460220efc230ef8262b402f2b3c403afc068000002b183a459c01545c160ef4150ef012436c0b44b40544b0043588550c5403019c022b3828343435147c3b46180c2b34202ab007, 0x4f78002b4c1b2b381e2b481a2b441d390c192b20182b1c172ab8165470012b3c14546c15461c03⟩,
  ⟨8, 2, 0x5468320f00385464375460220efc230ef8262b402f2b3c403afc068000002b183a459c01545c160ef4150ef012436c0b44b40544b00435c8550c5403019c022b3828343435147c3b46180c2b34202ab007, 0x4f78002b4c1b2b381e2b481a2b441d390c192b20182b1c172ab8165470012b3c14546c15461c03⟩,
  ⟨8, 2, 0x5468320f00385464375460220efc230ef8262b402f2b3c403afc068000002b183a459c01545c160ef4150ef012436c0b44b40544b0041ed0450c5403019c022b3828343435147c3b46180c2b34202ab007, 0x4f78002b4c1b2b381e2b481a2b441d4468192b20182b1c172ab8165470012b3c14546c15461c03⟩,
  ⟨8, 2, 0x5468320f00385464375460220efc230ef8262b402f2b3c403afc068000002b183a459c01545c160ef4150ef012436c0b44b40544b0041ed4550c5403019c022b3828343435147c3b46180c2b34202ab007, 0x4f78002b4c1b2b381e2b481a2b441d390c192b20182b1c172ab8165470012b3c14546c15461c03⟩,
  ⟨8, 2, 0x5468320f00385464375460220efc230ef8262b402f2b3c403afc068000002b183a459c01545c160ef4150ef012436c0b44b40544b0041f1c550c5403019c022b3828343435147c3b46180c2b34202ab007, 0x4f78002b4c1b2b381e2b481a2b441d390c192b20182b1c172ab8165470012b3c14546c15461c03⟩,
  ⟨8, 2, 0x5468320f00385464375460220efc230ef8262b402f2b3c403afc068000002b183a459c01545c160ef4150ef012436c0b44b40544b0042fdc450c5403019c022b3828343435147c3b46180c2b34202ab007, 0x4f78002b4c1b2b381e2b481a2b441d4488192b20182b1c172ab8165470012b3c14546c15461c03⟩,
  ⟨8, 2, 0x5468320f00385464375460220efc230ef8262b402f2b3c403afc068000002b183a459c01545c160ef4150ef012436c0b44b40544b0041744550c5403019c022b3828343435147c3b46180c2b34202ab007, 0x4f78002b4c1b2b381e2b481a2b441d390c192b20182b1c172ab8165470012b3c14546c15461c03⟩,
  ⟨8, 2, 0x5468320f00385464375460220efc230ef8262b402f2b3c403afc068000002b183a459c01545c160ef4150ef012436c0b44b40544b004174c550c5403019c022b3828343435147c3b46180c2b34202ab007, 0x4f78002b4c1b2b381e2b481a2b441d390c192b20182b1c172ab8165470012b3c14546c15461c03⟩,
  ⟨8, 2, 0x5468320f00385464375460220efc230ef8262b402f2b3c403afc068000002b183a459c01545c160ef4150ef012436c0b44b40544b0041820450c5403019c022b3828343435147c3b46180c2b34202ab007, 0x4f78002b4c1b2b381e2b481a2b441d44a8192b20182b1c172ab8165470012b3c14546c15461c03⟩,
  ⟨8, 2, 0x5468320f00385464375460220efc230ef8262b402f2b3c403afc068000002b183a459c01545c160ef4150ef012436c0b44b40544b0042b0c550c5403019c022b3828343435147c3b46180c2b34202ab007, 0x4f78002b4c1b2b381e2b481a2b441d390c192b20182b1c172ab8165470012b3c14546c15461c03⟩,
  ⟨8, 2, 0x5468320f00385464375460220efc230ef8262b402f2b3c403afc068000002b183a459c01545c160ef4150ef012436c0b44b40544b0042b14550c5403019c022b3828343435147c3b46180c2b34202ab007, 0x4f78002b4c1b2b381e2b481a2b441d390c192b20182b1c172ab8165470012b3c14546c15461c03⟩,
  ⟨8, 2, 0x5468320f00385464375460220efc230ef8262b402f2b3c403afc068000002b183a459c01545c160ef4150ef012436c0b44b40544b0043314450c5403019c022b3828343435147c3b46180c2b34202ab007, 0x4f78002b4c1b2b381e2b481a2b441d44c8192b20182b1c172ab8165470012b3c14546c15461c03⟩,
  ⟨8, 2, 0x5468320f00385464375460220efc230ef8262b402f2b3c403afc068000002b183a459c01545c160ef4150ef012436c0b44b40544b0042dd8550c5403019c022b3828343435147c3b46180c2b34202ab007, 0x4f78002b4c1b2b381e2b481a2b441d390c192b20182b1c172ab8165470012b3c14546c15461c03⟩,
  ⟨8, 2, 0x5468320f00385464375460220efc230ef8262b402f2b3c403afc068000002b183a459c01545c160ef4150ef012436c0b44b40544b0042de0550c5403019c022b3828343435147c3b46180c2b34202ab007, 0x4f78002b4c1b2b381e2b481a2b441d390c192b20182b1c172ab8165470012b3c14546c15461c03⟩,
  ⟨8, 2, 0x5468320f00385464375460220efc230ef8262b402f2b3c403afc068000002b183a459c01545c160ef4150ef012436c0b44b40544b0044d30550c5403019c022b3828343435147c3b46180c2b34202ab007, 0x4f78002b4c1b2b381e2b481a2b441d390c192b20182b1c172ab8165470012b3c14546c15461c03⟩,
  ⟨8, 2, 0x5468320f00385464375460220efc230ef8262b402f2b3c403afc068000002b183a459c01545c160ef4150ef012436c0b44b40544b0044d38550c5403019c022b3828343435147c3b46180c2b34202ab007, 0x4f78002b4c1b2b381e2b481a2b441d390c192b20182b1c172ab8165470012b3c14546c15461c03⟩,
  ⟨8, 2, 0x5468320f00385464375460220efc230ef8262b402f2b3c403afc068000002b183a459c01545c160ef4150ef012436c0b44b40544b0043318550c5403019c022b3828343435147c3b46180c2b34202ab007, 0x4f78002b4c1b2b381e2b481a2b441d390c192b20182b1c172ab8165470012b3c14546c15461c03⟩,
  ⟨8, 2, 0x5468320f00385464375460220efc230ef8262b402f2b3c403afc068000002b183a459c01545c160ef4150ef012436c0b44b40544b0043340550c5403019c022b3828343435147c3b46180c2b34202ab007, 0x4f78002b4c1b2b381e2b481a2b441d390c192b20182b1c172ab8165470012b3c14546c15461c03⟩,
  ⟨8, 2, 0x5468320f00385464375460220efc230ef8262b402f2b3c403afc068000002b183a459c01545c160ef4150ef012436c0b44b40544b0040c5403019c022b3828343435147c3b46180c2b34202ab007, 0x4f78002b4c1b2b381e2b481a2b441d389c192b20182b1c172ab8165470012b3c14546c15461c03⟩,
  ⟨8, 2, 0x5468320f00385464375460220efc230ef8262b402f2b3c403afc068000002b183a459c01545c160ef4150ef012436c0b44b40544b0040c5403019c022b3828343435147c3b46180c2b34202ab007, 0x4f78002b4c1b2b381e2b481a2b441d38ac192b20182b1c172ab8165470012b3c14546c15461c03⟩,
  ⟨8, 2, 0x55a8320f883855a4375828220f84230f80261e102f1e0c4041f4068000001c283a459c0155a0160f7c150f781244f40b42f80542f4040dd40301b0021d842834943514a43b46180c1e04201c2c07, 0x5324001e201b1e081e1e1c1a1e181d1d88191e14181c34171c301655ac011e0c145740154d8c03⟩,
  ⟨8, 2, 0x55a8320f883855a4375828220f84230f80261e102f1e0c4041f4068000001c283a459c0155a0160f7c150f781244f40b42f80542f4040dd40301b0021e082834943514a43b46180c1e04201c2c07, 0x5324001e201b1e081e1e1c1a1e181d1d98191e14181c34171c301655ac011e0c145740154d8c03⟩,
  ⟨8, 2, 0x5604320fc43856003758a4220fc0230fbc262f642f2f6040425c068000002ee03a459c0155fc160fb8150fb412450c0b4428054424040dd80301b4022f5c28349c3514a83b46180c2f58202d0007, 0x5344002f701b2f5c1e2f6c1a2f681d3b38192ee4182d04172d90165608012f60145794154dec03⟩,
  ⟨8, 2, 0x5604320fc43856003758a4220fc0230fbc262f642f2f6040425c068000002ee03a459c0155fc160fb8150fb412450c0b4428054424040dd80301b4022f5c28349c3514a83b46180c2f58202d0007, 0x5344002f701b2f5c1e2f6c1a2f681d30cc192f50182d88172d90165608012f60145794154dec03⟩,
  ⟨8, 2, 0x5468320f00385464375460220efc230ef8262b402f2b3c403afc068000002b183a459c01545c160ef4150ef012436c0b44b40544b0040c5403019c022b3828343435147c3b46180c2b34202ab007, 0x4f78002b4c1b2b381e2b481a2b441d2b58192b20182b1c172ab8165470012b3c14546c15461c03⟩,
  ⟨8, 2, 0x5468320f00385464375460220efc230ef8262b402f2b3c403afc068000002b183a459c01545c160ef4150ef012436c0b44b40544b0040c5403019c022b3828343435147c3b46180c2b34202ab007, 0x4f78002b4c1b2b381e2b481a2b441d2d38192b20182b1c172ab8165470012b3c14546c15461c03⟩,
  ⟨8, 2, 0x5468320f00385464375460220efc230ef8262b402f2b3c403afc068000002b183a459c01545c160ef4150ef012436c0b44b40544b0040c5403019c022b3828343435147c3b46180c2b34202ab007, 0x4f78002b4c1b2b381e2b481a2b441d2d3c192b20182b1c172ab8165470012b3c14546c15461c03⟩,
  ⟨8, 2, 0x5468320f00385464375460220efc230ef8262b402f2b3c403afc068000002b183a459c01545c160ef4150ef012436c0b44b40544b0040c5403019c022b3828343435147c3b46180c2b34202ab007, 0x4f78002b4c1b2b381e2b681a2b441d4680192b20182b1c172ab8165470012b3c14546c15461c03⟩]

/-- States 960 to 1023. -/
def states0960 : List PackedRow := [
  ⟨8, 2, 0x5468320f00385464375460220efc230ef8262b402f2b3c403afc068000002b183a459c01545c160ef4150ef012436c0b44b40544b0040c5403019c022b3828343435147c3b46180c2b34202ab007, 0x4f78002b4c1b2b381e2b6c1a2b441d4680192b20182b1c172ab8165470012b3c14546c15461c03⟩,
  ⟨8, 2, 0x5468320f00385464375460220efc230ef8262b402f2b3c403afc068000002b183a459c01545c160ef4150ef012436c0b44b40544b0040c5403019c022b3828343435147c3b46180c2b34202ab007, 0x4f78002b4c1b2b381e2b481a2b441d3b70192b20182b1c172ab8165470012b3c14546c15461c03⟩,
  ⟨8, 2, 0x5468320f00385464375460220efc230ef8262b402f2b3c403afc068000002b183a459c01545c160ef4150ef012436c0b44b40544b0040c5403019c022b3828343435147c3b46180c2b34202ab007, 0x4f78002b4c1b2b381e2b481a2b441d38e0192b20182b1c172ab8165470012b3c14546c15461c03⟩,
  ⟨8, 2, 0x5604320fc43856003758a4220fc0230fbc262f642f2f6040425c068000002ee03a459c0155fc160fb8150fb412450c0b4428054424040dd80301b4022f5c28349c3514a83b46180c2f58202d0007, 0x5344002f701b2f5c1e2f6c1a2f681d3ba4192ee4182d04172d90165608012f60145794154dec03⟩,
  ⟨8, 2, 0x5468320f00385464375460220efc230ef8262b402f2b3c403afc068000002b183a459c01545c160ef4150ef012436c0b44b40544b0040c5403019c022b3828343435147c3b46180c2b34202ab007, 0x4f78002b4c1b43c48b2b381e3be01a2b448a4680192b20182b1c172ab8165470012b3c14546c15461c03⟩,
  ⟨8, 2, 0x5468320f00385464375460220efc230ef8262b402f2b3c403afc068000002b183a459c01545c160ef4150ef012436c0b44b40544b0040c5403019c022b3828343435147c3b46180c2b34202ab007, 0x4f78002b4c1b2b381e2b481a2b441d390c192b20182b1c172ab8165470012b3c14546c15461c03⟩,
  ⟨8, 2, 0x5468320f00385464375460220efc230ef8262b402f2b3c403afc068000002b183a459c01545c160ef4150ef012436c0b44b40544b0040c5403019c022b3828343435147c3b46180c2b34202ab007, 0x4f78002b4c1b2b381e2b481a2b441d2b98192b20182b1c172ab8165470012b3c14546c15461c03⟩,
  ⟨8, 2, 0x5468320f00385464375460220efc230ef8262b402f2b3c403afc068000002b183a459c01545c160ef4150ef012436c0b44b40544b0040c5403019c022b3828343435147c3b46180c2b34202ab007, 0x4f78002b4c1b2b381e2b481a2b441d2d50192b20182b1c172ab8165470012b3c14546c15461c03⟩,
  ⟨8, 2, 0x546832111c3858d43758e4221118231114262b402f2b3c403afc068000002b183a459c01545c16111015110c1245400b44b40544b0040c5403019c022b3828343435147c3b46180c2b34202ab007, 0x5388002b4c1b2b381e2b481a2b441d43c8192b20183110172ab8165830012b3c14546c154ea803⟩,
  ⟨8, 2, 0x5468320f00385464375460220efc230ef8262b402f2b3c403afc068000002b183a459c01545c160ef4150ef012436c0b44b40544b0040c5403019c022b3828343435147c3b46180c2b34202ab007, 0x4f78002b4c1b2b381e2b481a2b441d2d58192b20182b1c172ab8165470012b3c14546c15461c03⟩,
  ⟨8, 2, 0x5468320f00385464375460220efc230ef8262b402f2b3c403afc068000002b183a459c01545c160ef4150ef012436c0b44b40544b0040c5403019c022b3828343435147c3b46180c2b34202ab007, 0x4f78002b4c1b2b381e2b481a2b441d2d5c192b20182b1c172ab8165470012b3c14546c15461c03⟩,
  ⟨8, 2, 0x5468320f00385464375460220efc230ef8262b402f2b3c403afc068000002b183a459c01545c160ef4150ef012436c0b44b40544b0040c5403019c022b3828343435147c3b46180c2b34202ab007, 0x4f78002b4c1b2b381e2b481a2b441d43e8192b20182b1c172ab8165470012b3c14546c15461c03⟩,
  ⟨8, 2, 0x546832107438582c3758d022107023106c262b402f2b3c403afc068000002b183a459c01545c1610681510641245240b44d40544d0040c5403019c022b382834c83514b43b46180c2b34202ab007, 0x5370002b4c1b2b381e2b481a2b441d3c08192b20183424172ab8165744012b3c14546c154eb003⟩,
  ⟨8, 2, 0x5468320f00385464375460220efc230ef8262b402f2b3c403afc068000002b183a459c01545c160ef4150ef012436c0b44b40544b0040c5403019c022b3828343435147c3b46180c2b34202ab007, 0x4f78002b4c1b2b381e2b481a2b441d43ec192b20182b1c172ab8165470012b3c14546c15461c03⟩,
  ⟨8, 2, 0x5468320f00385464375460220efc230ef8262b402f2b3c403afc068000002b183a459c01545c160ef4150ef012436c0b44b40544b0040c5403019c022b3828343435147c3b46180c2b34202ab007, 0x4f78002b4c1b2b381e2b481a2b441d2bb8192b20182b1c172ab8165470012b3c14546c15461c03⟩,
  ⟨8, 2, 0x5468320f00385464375460220efc230ef8262b402f2b3c403afc068000002b183a459c01545c160ef4150ef012436c0b44b40544b0040c5403019c022b3828343435147c3b46180c2b34202ab007, 0x4f78002b4c1b2b381e2b481a2b441d2d64192b20182b1c172ab8165470012b3c14546c15461c03⟩,
  ⟨8, 2, 0x5604320fc43856003758a4220fc0230fbc262f642f2f6040425c068000002ee03a459c0155fc160fb8150fb412450c0b4428054424040dd80301b4022f5c28349c3514a83b46180c2f58202d0007, 0x5344002f701b2f5c1e2f6c1a2f681d3c64192ee4182d04172d90165608012f60145794154dec03⟩,
  ⟨8, 2, 0x5604320fc43856003758a4220fc0230fbc262f642f2f6040425c068000002ee03a459c0155fc160fb8150fb412450c0b4428054424040dd80301b4022f5c28349c3514a83b46180c2f58202d0007, 0x5344002f701b2f5c1e2f6c1a2f681d3450192ee4182d04172d90165608012f60145794154dec03⟩,
  ⟨8, 2, 0x5604320fc43856003758a4220fc0230fbc262f642f2f6040425c068000002ee03a459c0155fc160fb8150fb412450c0b4428054424040dd80301b4022f5c28349c3514a83b46180c2f58202d0007, 0x5344002f701b2f5c1e2f6c1a2f681d3454192ee4182d04172d90165608012f60145794154dec03⟩,
  ⟨8, 2, 0x5604320fc43856003758a4220fc0230fbc262f642f2f6040425c068000002ee03a459c0155fc160fb8150fb412450c0b4428054424040dd80301b4022f5c28349c3514a83b46180c2f58202d0007, 0x5344002f701b2f5c1e2f6c1a2f681d3458192ee4182d04172d90165608012f60145794154dec03⟩,
  ⟨8, 2, 0x5468320f00385464375460220efc230ef8262b402f2b3c403afc068000002b183a459c01545c160ef4150ef012436c0b44b40544b0040c5403019c022b3828343435147c3b46180c2b34202ab007, 0x4f78002b4c1b2b381e2b481a2b441d4400192b20182b1c172ab8165470012b3c14546c15461c03⟩,
  ⟨8, 2, 0x5468320f00385464375460220efc230ef8262b402f2b3c403afc068000002b183a459c01545c160ef4150ef012436c0b44b40544b0040c5403019c022b3828343435147c3b46180c2b34202ab007, 0x4f78002b4c1b2b381e2b481a2b441d4404192b20182b1c172ab8165470012b3c14546c15461c03⟩,
  ⟨8, 2, 0x5468320f00385464375460220efc230ef8262b402f2b3c403afc068000002b183a459c01545c160ef4150ef012436c0b44b40544b0040c5403019c022b3828343435147c3b46180c2b34202ab007, 0x4f78002b4c1b2b381e2b481a2b441d2bc8192b20182b1c172ab8165470012b3c14546c15461c03⟩,
  ⟨8, 2, 0x5468320f00385464375460220efc230ef8262b402f2b3c403afc068000002b183a459c01545c160ef4150ef012436c0b44b40544b0040c5403019c022b3828343435147c3b46180c2b34202ab007, 0x4f78002b4c1b2b381e2b481a2b441d2bcc192b20182b1c172ab8165470012b3c14546c15461c03⟩,
  ⟨8, 2, 0x5468320f00385464375460220efc230ef8262b402f2b3c403afc068000002b183a459c01545c160ef4150ef012436c0b44b40544b0040c5403019c022b3828343435147c3b46180c2b34202ab007, 0x4f78002b4c1b2b381e2b481a2b441d4408192b20182b1c172ab8165470012b3c14546c15461c03⟩,
  ⟨8, 2, 0x5468320f00385464375460220efc230ef8262b402f2b3c403afc068000002b183a459c01545c160ef4150ef012436c0b44b40544b0040c5403019c022b3828343435147c3b46180c2b34202ab007, 0x4f78002b4c1b2b381e2b481a2b441d4414192b20182b1c172ab8165470012b3c14546c15461c03⟩,
  ⟨8, 2, 0x5468320f00385464375460220efc230ef8262b402f2b3c403afc068000002b183a459c01545c160ef4150ef012436c0b44b40544b0040c5403019c022b3828343435147c3b46180c2b34202ab007, 0x4f78002b4c1b2b381e2b481a2b441d4418192b20182b1c172ab8165470012b3c14546c15461c03⟩,
  ⟨8, 2, 0x5468320f00385464375460220efc230ef8262b402f2b3c403afc068000002b183a459c01545c160ef4150ef012436c0b44b40544b0040c5403019c022b3828343435147c3b46180c2b34202ab007, 0x4f78002b4c1b2b381e2b481a2b441d441c192b20182b1c172ab8165470012b3c14546c15461c03⟩,
  ⟨8, 2, 0x5468320f00385464375460220efc230ef8262b402f2b3c403afc068000002b183a459c01545c160ef4150ef012436c0b44b40544b0040c5403019c022b3828343435147c3b46180c2b34202ab007, 0x4f78002b4c1b2b381e2b481a2b441d2bd0192b20182b1c172ab8165470012b3c14546c15461c03⟩,
  ⟨8, 2, 0x5468320f00385464375460220efc230ef8262b402f2b3c403afc068000002b183a459c01545c160ef4150ef012436c0b44b40544b0040c5403019c022b3828343435147c3b46180c2b34202ab007, 0x4f78002b4c1b2b381e2b481a2b441d2d80192b20182b1c172ab8165470012b3c14546c15461c03⟩,
  ⟨8, 2, 0x55a8320f883855a4375828220f84230f80261e102f1e0c4041f4068000001c283a459c0155a0160f7c150f781244f40b42f80542f4040dd40301b0021e082834943514a43b46180c1e04201c2c07, 0x5324001e201b1e081e1e1c1a1e181d1e40191e14181c34171c301655ac011e0c145740154d8c03⟩,
  ⟨8, 2, 0x55a8320f883855a4375828220f84230f80261e102f1e0c4041f4068000001c283a459c0155a0160f7c150f781244f40b42f80542f4040dd40301b0021e082834943514a43b46180c1e04201c2c07, 0x5324001e201b1e081e1e1c1a1e181d1e44191e14181c34171c301655ac011e0c145740154d8c03⟩,
  ⟨8, 2, 0x55a8320f883855a4375828220f84230f80261e102f1e0c4041f4068000001c283a459c0155a0160f7c150f781244f40b42f80542f4040dd40301b0021e082834943514a43b46180c1e04201c2c07, 0x5324001e201b1e081e1e1c1a1e181d1e54191e14181c34171c301655ac011e0c145740154d8c03⟩,
  ⟨8, 2, 0x55a8320f88385464375460220f84230ef8261e102f1e0c4041f4068000001c283a459c0155a0160f7c150f7812436c0b42f80542f4040dd40301b0021e082834943514a43b46180c1e04201c2c07, 0x4f78001e201b1e081e1e581a2b441d4db0192b20182b1c171c30165470011e0c14574015461c03⟩,
  ⟨8, 2, 0x55a8320f88385464375460220f84230ef8261e102f1e0c4041f4068000001c283a459c0155a0160f7c150f7812436c0b42f80542f4040dd40301b0021e082834943514a43b46180c1e04201c2c07, 0x4f78001e201b1e081e1e601a2b441d4db0192b20182b1c171c30165470011e0c14574015461c03⟩,
  ⟨8, 2, 0x55a8320f883855a4375828220f84230f80261e102f1e0c4041f4068000001c283a459c0155a0160f7c150f781244f40b42f80542f4040dd40301b0021e082834943514a43b46180c1e04201c2c07, 0x5324001e201b1e081e1e1c1a1e181d1ec8191e14181c34171c301655ac011e0c145740154d8c03⟩,
  ⟨8, 2, 0x55a8320f883855a4375828220f84230f80261e102f1e0c4041f4068000001c283a459c0155a0160f7c150f781244f40b42f80542f4040dd40301b0021e082834943514a43b46180c1e04201c2c07, 0x5324001e201b1e081e1e1c1a1e181d1ecc191e14181c34171c301655ac011e0c145740154d8c03⟩,
  ⟨8, 2, 0x56bc3210343856b83758bc22103023102c2632a42f32a04042780680000030e03a459c0156b416102815102412451c0b44e40544e0040de00301bc02329c2834ac3514b03b46180c3298202f0007, 0x535c0032b01b329c1e32ac1a32a81d32801930e4182f041730281656c00132a01457f0154e4403⟩,
  ⟨8, 2, 0x56bc3210343856b83758bc22103023102c2632a42f32a04042780680000030e03a459c0156b416102815102412451c0b44e40544e0040de00301bc02329c2834ac3514b03b46180c3298202f0007, 0x535c0032b01b329c1e32ac1a32a81d32841930e4182f041730281656c00132a01457f0154e4403⟩,
  ⟨8, 2, 0x55a8320f883855a4375828220f84230f80261e102f1e0c4041f4068000001c283a459c0155a0160f7c150f781244f40b42f80542f4040dd40301b0021e082834943514a43b46180c1e04201c2c07, 0x5324001e201b1e081e1e1c1a1e181d1f08191e14181c34171c301655ac011e0c145740154d8c03⟩,
  ⟨8, 2, 0x55a8320f883855a4375828220f84230f80261e102f1e0c4041f4068000001c283a459c0155a0160f7c150f781244f40b42f80542f4040dd40301b0021e082834943514a43b46180c1e04201c2c07, 0x5324001e201b1e081e1e1c1a1e181d1f0c191e14181c34171c301655ac011e0c145740154d8c03⟩,
  ⟨8, 2, 0x55a8320f883855a4375828220f84230f80261e102f1e0c4041f4068000001c283a459c0155a0160f7c150f781244f40b42f80542f4040dd40301b0021e082834943514a43b46180c1e04201c2c07, 0x5324001e201b1e081e1e1c1a1e181d1f28191e14181c34171c301655ac011e0c145740154d8c03⟩,
  ⟨8, 2, 0x55a8320f883855a4375828220f84230f80261e102f1e0c4041f4068000001c283a459c0155a0160f7c150f781244f40b42f80542f4040dd40301b0021e082834943514a43b46180c1e04201c2c07, 0x5324001e201b1e081e1e1c1a1e181d1f2c191e14181c34171c301655ac011e0c145740154d8c03⟩,
  ⟨8, 2, 0x55a8320f883855a4375828220f84230f80261e102f1e0c4041f4068000001c283a459c0155a0160f7c150f781244f40b42f80542f4040dd40301b0021e082834943514a43b46180c1e04201c2c07, 0x5324001e201b1e081e1e1c1a1e181d1f34191e14181c34171c301655ac011e0c145740154d8c03⟩,
  ⟨8, 2, 0x55a8320f883855a4375828220f84230f80261e102f1e0c4041f4068000001c283a459c0155a0160f7c150f781244f40b42f80542f4040dd40301b0021e082834943514a43b46180c1e04201c2c07, 0x5324001e201b1e081e1e1c1a1e181d1f38191e14181c34171c301655ac011e0c145740154d8c03⟩,
  ⟨8, 2, 0x5604320fc43856003758a4220fc0230fbc262f642f2f6040425c068000002ee03a459c0155fc160fb8150fb412450c0b4428054424040dd80301b4022f5c28349c3514a83b46180c2f58202d0007, 0x5344002f701b2f5c1e2f6c1a2f681d2f84192ee4182d04172d90165608012f60145794154dec03⟩,
  ⟨8, 2, 0x5604320fc43856003758a4220fc0230fbc262f642f2f6040425c068000002ee03a459c0155fc160fb8150fb412450c0b4428054424040dd80301b4022f5c28349c3514a83b46180c2f58202d0007, 0x5344002f701b2f5c1e2f6c1a2f681d2f88192ee4182d04172d90165608012f60145794154dec03⟩,
  ⟨8, 2, 0x5604320fc43856003758a4220fc0230fbc262f642f2f6040425c068000002ee03a459c0155fc160fb8150fb412450c0b4428054424040dd80301b4022f5c28349c3514a83b46180c2f58202d0007, 0x5344002f701b2f5c1e2f6c1a2f681d2f98192ee4182d04172d90165608012f60145794154dec03⟩,
  ⟨8, 2, 0x5604320fc4385464375460220fc0230ef8262f642f2f6040425c068000002ee03a459c0155fc160fb8150fb412436c0b4428054424040dd80301b4022f5c28349c3514a83b46180c2f58202d0007, 0x4f78002f701b2f5c1e2f9c1a2b441d4e00192b20182b1c172d90165470012f6014579415461c03⟩,
  ⟨8, 2, 0x5604320fc4385464375460220fc0230ef8262f642f2f6040425c068000002ee03a459c0155fc160fb8150fb412436c0b4428054424040dd80301b4022f5c28349c3514a83b46180c2f58202d0007, 0x4f78002f701b2f5c1e2fa41a2b441d4e00192b20182b1c172d90165470012f6014579415461c03⟩,
  ⟨8, 2, 0x5604320fc43856003758a4220fc0230fbc262f642f2f6040425c068000002ee03a459c0155fc160fb8150fb412450c0b4428054424040dd80301b4022f5c28349c3514a83b46180c2f58202d0007, 0x5344002f701b2f5c1e2f6c1a2f681d2fd4192ee4182d04172d90165608012f60145794154dec03⟩,
  ⟨8, 2, 0x5604320fc43856003758a4220fc0230fbc262f642f2f6040425c068000002ee03a459c0155fc160fb8150fb412450c0b4428054424040dd80301b4022f5c28349c3514a83b46180c2f58202d0007, 0x5344002f701b2f5c1e2f6c1a2f681d2fd8192ee4182d04172d90165608012f60145794154dec03⟩,
  ⟨8, 2, 0x55a8320f883855a4375828220f84230f80261e102f1e0c4041f4068000001c283a459c0155a0160f7c150f781244f40b42f80542f4040dd40301b0021e082834943514a43b46180c1e04201c2c07, 0x5324001e201b1e081e1e1c1a1e181d1f54191e14181c34171c301655ac011e0c145740154d8c03⟩,
  ⟨8, 2, 0x55a8320f883855a4375828220f84230f80261e102f1e0c4041f4068000001c283a459c0155a0160f7c150f781244f40b42f80542f4040dd40301b0021e082834943514a43b46180c1e04201c2c07, 0x5324001e201b1e081e1e1c1a1e181d1f58191e14181c34171c301655ac011e0c145740154d8c03⟩,
  ⟨8, 2, 0x5604320fc43856003758a4220fc0230fbc262f642f2f6040425c068000002ee03a459c0155fc160fb8150fb412450c0b4428054424040dd80301b4022f5c28349c3514a83b46180c2f58202d0007, 0x5344002f701b2f5c1e2f6c1a2f681d2fec192ee4182d04172d90165608012f60145794154dec03⟩,
  ⟨8, 2, 0x5604320fc43856003758a4220fc0230fbc262f642f2f6040425c068000002ee03a459c0155fc160fb8150fb412450c0b4428054424040dd80301b4022f5c28349c3514a83b46180c2f58202d0007, 0x5344002f701b2f5c1e2f6c1a2f681d2ff0192ee4182d04172d90165608012f60145794154dec03⟩,
  ⟨8, 2, 0x5604320fc43856003758a4220fc0230fbc262f642f2f6040425c068000002ee03a459c0155fc160fb8150fb412450c0b4428054424040dd80301b4022f5c28349c3514a83b46180c2f58202d0007, 0x5344002f701b2f5c1e2f6c1a2f681d3008192ee4182d04172d90165608012f60145794154dec03⟩,
  ⟨8, 2, 0x5604320fc43856003758a4220fc0230fbc262f642f2f6040425c068000002ee03a459c0155fc160fb8150fb412450c0b4428054424040dd80301b4022f5c28349c3514a83b46180c2f58202d0007, 0x5344002f701b2f5c1e2f6c1a2f681d300c192ee4182d04172d90165608012f60145794154dec03⟩,
  ⟨8, 2, 0x5604320fc43856003758a4220fc0230fbc262f642f2f6040425c068000002ee03a459c0155fc160fb8150fb412450c0b4428054424040dd80301b4022f5c28349c3514a83b46180c2f58202d0007, 0x5344002f701b2f5c1e2f6c1a2f681d3014192ee4182d04172d90165608012f60145794154dec03⟩,
  ⟨8, 2, 0x5604320fc43856003758a4220fc0230fbc262f642f2f6040425c068000002ee03a459c0155fc160fb8150fb412450c0b4428054424040dd80301b4022f5c28349c3514a83b46180c2f58202d0007, 0x5344002f701b2f5c1e2f6c1a2f681d3018192ee4182d04172d90165608012f60145794154dec03⟩,
  ⟨8, 2, 0x56783210003856743758b4220ffc230ff826176c2f17684042700680000016703a459c015670160ff4150ff01245140b4494054490040ddc0301b80217642834a43514ac3b46180c176020167407, 0x535000177c1b17641e17781a17741d179419177018167c17167816567c0117681457b4154e2003⟩,
  ⟨8, 2, 0x56783210003856743758b4220ffc230ff826176c2f17684042700680000016703a459c015670160ff4150ff01245140b4494054490040ddc0301b80217642834a43514ac3b46180c176020167407, 0x535000177c1b17641e17781a17741d179819177018167c17167816567c0117681457b4154e2003⟩,
  ⟨8, 2, 0x56783210003856743758b4220ffc230ff826176c2f17684042700680000016703a459c015670160ff4150ff01245140b4494054490040ddc0301b80217642834a43514ac3b46180c176020167407, 0x535000177c1b17641e17781a17741d17a819177018167c17167816567c0117681457b4154e2003⟩,
  ⟨8, 2, 0x5678321000385464375460220ffc230ef826176c2f17684042700680000016703a459c015670160ff4150ff012436c0b4494054490040ddc0301b80217642834a43514ac3b46180c176020167407, 0x4f7800177c1b17641e17ac1a2b441d4e34192b20182b1c1716781654700117681457b415461c03⟩]

end JsxDetect.Automaton
