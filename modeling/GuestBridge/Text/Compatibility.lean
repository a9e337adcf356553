import GuestBridge.Text.Case

/-!
# Names that are the same

Two spellings of a name are the same if they differ only in how characters are composed or in the
style of letters. Names are compared in a normal form: every character is taken apart into its plain
parts, marks are put into a fixed order, and what has a composed form is composed again.

The tables follow version 14 of the Unicode character database, restricted to the characters that
may occur in names.
-/

namespace GuestBridge.Text

/-- Runs of characters that stand for one plain character each: the first, their number, and what
the first one stands for. -/
def styledRuns : Array (Nat × Nat × Nat) :=
  ((tableRows
  (String.join [
    "aa.1.61 b5.1.3bc ba.1.6f 17f.1.73 2b0.1.68 2b1.1.266 2b2.1.6a 2b3.1.72 2b4.1.279 ",
    "2b5.1.27b 2b6.1.281 2b7.1.77 2b8.1.79 2e0.1.263 2e1.1.6c 2e2.1.73 2e3.1.78 2e4.1.295 ",
    "340.2.300 343.1.313 374.1.2b9 387.1.b7 3d0.1.3b2 3d1.1.3b8 3d2.1.3a5 3d5.1.3c6 3d6.1.3c0 ",
    "3f0.1.3ba 3f1.2.3c1 3f4.1.398 3f5.1.3b5 3f9.1.3a3 10fc.1.10dc 1d2c.1.41 1d2d.1.c6 ",
    "1d2e.1.42 1d30.2.44 1d32.1.18e 1d33.8.47 1d3c.1.4f 1d3d.1.222 1d3e.1.50 1d3f.1.52 ",
    "1d40.2.54 1d42.1.57 1d43.1.61 1d44.2.250 1d46.1.1d02 1d47.1.62 1d48.2.64 1d4a.1.259 ",
    "1d4b.2.25b 1d4d.1.67 1d4f.1.6b 1d50.1.6d 1d51.1.14b 1d52.1.6f 1d53.1.254 1d54.2.1d16 ",
    "1d56.1.70 1d57.2.74 1d59.1.1d1d 1d5a.1.26f 1d5b.1.76 1d5c.1.1d25 1d5d.3.3b2 1d60.2.3c6 ",
    "1d62.1.69 1d63.1.72 1d64.2.75 1d66.2.3b2 1d68.1.3c1 1d69.2.3c6 1d78.1.43d 1d9b.1.252 ",
    "1d9c.1.63 1d9d.1.255 1d9e.1.f0 1d9f.1.25c 1da0.1.66 1da1.1.25f 1da2.1.261 1da3.1.265 ",
    "1da4.3.268 1da7.1.1d7b 1da8.1.29d 1da9.1.26d 1daa.1.1d85 1dab.1.29f 1dac.1.271 1dad.1.270 ",
    "1dae.4.272 1db2.1.278 1db3.2.282 1db5.1.1ab 1db6.2.289 1db8.1.1d1c 1db9.2.28b 1dbb.1.7a ",
    "1dbc.3.290 1dbf.1.3b8 1fbe.1.3b9 2071.1.69 207f.1.6e 2090.1.61 2091.1.65 2092.1.6f ",
    "2093.1.78 2094.1.259 2095.1.68 2096.4.6b 209a.1.70 209b.2.73 2102.1.43 2107.1.190 ",
    "210a.1.67 210b.1.48 210c.1.48 210d.1.48 210e.1.68 210f.1.127 2110.1.49 2111.1.49 ",
    "2112.1.4c 2113.1.6c 2115.1.4e 2119.3.50 211c.1.52 211d.1.52 2124.1.5a 2126.1.3a9 ",
    "2128.1.5a 212a.1.4b 212c.2.42 212f.1.65 2130.2.45 2133.1.4d 2134.1.6f 2135.4.5d0 ",
    "2139.1.69 213c.1.3c0 213d.1.3b3 213e.1.393 213f.1.3a0 2145.1.44 2146.2.64 2148.2.69 ",
    "2160.1.49 2164.1.56 2169.1.58 216c.1.4c 216d.2.43 216f.1.4d 2170.1.69 2174.1.76 2179.1.78 ",
    "217c.1.6c 217d.2.63 217f.1.6d 2c7c.1.6a 2c7d.1.56 2d6f.1.2d61 3038.1.5341 3039.2.5344 ",
    "3131.2.1100 3133.1.11aa 3134.1.1102 3135.2.11ac 3137.3.1103 313a.6.11b0 3140.1.111a ",
    "3141.3.1106 3144.1.1121 3145.a.1109 314f.15.1161 3164.1.1160 3165.2.1114 3167.2.11c7 ",
    "3169.1.11cc 316a.1.11ce 316b.1.11d3 316c.1.11d7 316d.1.11d9 316e.1.111c 316f.1.11dd ",
    "3170.1.11df 3171.2.111d 3173.1.1120 3174.2.1122 3176.1.1127 3177.1.1129 3178.5.112b ",
    "317d.1.1132 317e.1.1136 317f.1.1140 3180.1.1147 3181.1.114c 3182.2.11f1 3184.3.1157 ",
    "3187.2.1184 3189.1.1188 318a.2.1191 318c.1.1194 318d.1.119e 318e.1.11a1 a69c.1.44a ",
    "a69d.1.44c a770.1.a76f a7f2.1.43 a7f3.1.46 a7f4.1.51 a7f8.1.126 a7f9.1.153 ab5c.1.a727 ",
    "ab5d.1.ab37 ab5e.1.26b ab5f.1.ab52 ab69.1.28d f900.1.8c48 f901.1.66f4 f902.1.8eca ",
    "f903.1.8cc8 f904.1.6ed1 f905.1.4e32 f906.1.53e5 f907.1.9f9c f908.1.9f9c f909.1.5951 ",
    "f90a.1.91d1 f90b.1.5587 f90c.1.5948 f90d.1.61f6 f90e.1.7669 f90f.1.7f85 f910.1.863f ",
    "f911.1.87ba f912.1.88f8 f913.1.908f f914.1.6a02 f915.1.6d1b f916.1.70d9 f917.1.73de ",
    "f918.1.843d f919.1.916a f91a.1.99f1 f91b.1.4e82 f91c.1.5375 f91d.1.6b04 f91e.1.721b ",
    "f91f.1.862d f920.1.9e1e f921.1.5d50 f922.1.6feb f923.1.85cd f924.1.8964 f925.1.62c9 ",
    "f926.1.81d8 f927.1.881f f928.1.5eca f929.1.6717 f92a.1.6d6a f92b.1.72fc f92c.1.90ce ",
    "f92d.1.4f86 f92e.1.51b7 f92f.1.52de f930.1.64c4 f931.1.6ad3 f932.1.7210 f933.1.76e7 ",
    "f934.1.8001 f935.1.8606 f936.1.865c f937.1.8def f938.1.9732 f939.1.9b6f f93a.1.9dfa ",
    "f93b.1.788c f93c.1.797f f93d.1.7da0 f93e.1.83c9 f93f.1.9304 f940.1.9e7f f941.1.8ad6 ",
    "f942.1.58df f943.1.5f04 f944.1.7c60 f945.1.807e f946.1.7262 f947.1.78ca f948.1.8cc2 ",
    "f949.1.96f7 f94a.1.58d8 f94b.1.5c62 f94c.1.6a13 f94d.1.6dda f94e.1.6f0f f94f.1.7d2f ",
    "f950.1.7e37 f951.1.964b f952.1.52d2 f953.1.808b f954.1.51dc f955.1.51cc f956.1.7a1c ",
    "f957.1.7dbe f958.1.83f1 f959.1.9675 f95a.1.8b80 f95b.1.62cf f95c.1.6a02 f95d.1.8afe ",
    "f95e.1.4e39 f95f.1.5be7 f960.1.6012 f961.1.7387 f962.1.7570 f963.1.5317 f964.1.78fb ",
    "f965.1.4fbf f966.1.5fa9 f967.1.4e0d f968.1.6ccc f969.1.6578 f96a.1.7d22 f96b.1.53c3 ",
    "f96c.1.585e f96d.1.7701 f96e.1.8449 f96f.1.8aaa f970.1.6bba f971.1.8fb0 f972.1.6c88 ",
    "f973.1.62fe f974.1.82e5 f975.1.63a0 f976.1.7565 f977.1.4eae f978.1.5169 f979.1.51c9 ",
    "f97a.1.6881 f97b.1.7ce7 f97c.1.826f f97d.1.8ad2 f97e.1.91cf f97f.1.52f5 f980.1.5442 ",
    "f981.1.5973 f982.1.5eec f983.1.65c5 f984.1.6ffe f985.1.792a f986.1.95ad f987.1.9a6a ",
    "f988.1.9e97 f989.1.9ece f98a.1.529b f98b.1.66c6 f98c.1.6b77 f98d.1.8f62 f98e.1.5e74 ",
    "f98f.1.6190 f990.1.6200 f991.1.649a f992.1.6f23 f993.1.7149 f994.1.7489 f995.1.79ca ",
    "f996.1.7df4 f997.1.806f f998.1.8f26 f999.1.84ee f99a.1.9023 f99b.1.934a f99c.1.5217 ",
    "f99d.1.52a3 f99e.1.54bd f99f.1.70c8 f9a0.1.88c2 f9a1.1.8aaa f9a2.1.5ec9 f9a3.1.5ff5 ",
    "f9a4.1.637b f9a5.1.6bae f9a6.1.7c3e f9a7.1.7375 f9a8.1.4ee4 f9a9.1.56f9 f9aa.1.5be7 ",
    "f9ab.1.5dba f9ac.1.601c f9ad.1.73b2 f9ae.1.7469 f9af.1.7f9a f9b0.1.8046 f9b1.1.9234 ",
    "f9b2.1.96f6 f9b3.1.9748 f9b4.1.9818 f9b5.1.4f8b f9b6.1.79ae f9b7.1.91b4 f9b8.1.96b8 ",
    "f9b9.1.60e1 f9ba.1.4e86 f9bb.1.50da f9bc.1.5bee f9bd.1.5c3f f9be.1.6599 f9bf.1.6a02 ",
    "f9c0.1.71ce f9c1.1.7642 f9c2.1.84fc f9c3.1.907c f9c4.1.9f8d f9c5.1.6688 f9c6.1.962e ",
    "f9c7.1.5289 f9c8.1.677b f9c9.1.67f3 f9ca.1.6d41 f9cb.1.6e9c f9cc.1.7409 f9cd.1.7559 ",
    "f9ce.1.786b f9cf.1.7d10 f9d0.1.985e f9d1.1.516d f9d2.1.622e f9d3.1.9678 f9d4.1.502b ",
    "f9d5.1.5d19 f9d6.1.6dea f9d7.1.8f2a f9d8.1.5f8b f9d9.1.6144 f9da.1.6817 f9db.1.7387 ",
    "f9dc.1.9686 f9dd.1.5229 f9de.1.540f f9df.1.5c65 f9e0.1.6613 f9e1.1.674e f9e2.1.68a8 ",
    "f9e3.1.6ce5 f9e4.1.7406 f9e5.1.75e2 f9e6.1.7f79 f9e7.1.88cf f9e8.1.88e1 f9e9.1.91cc ",
    "f9ea.1.96e2 f9eb.1.533f f9ec.1.6eba f9ed.1.541d f9ee.1.71d0 f9ef.1.7498 f9f0.1.85fa ",
    "f9f1.1.96a3 f9f2.1.9c57 f9f3.1.9e9f f9f4.1.6797 f9f5.1.6dcb f9f6.1.81e8 f9f7.1.7acb ",
    "f9f8.1.7b20 f9f9.1.7c92 f9fa.1.72c0 f9fb.1.7099 f9fc.1.8b58 f9fd.1.4ec0 f9fe.1.8336 ",
    "f9ff.1.523a fa00.1.5207 fa01.1.5ea6 fa02.1.62d3 fa03.1.7cd6 fa04.1.5b85 fa05.1.6d1e ",
    "fa06.1.66b4 fa07.1.8f3b fa08.1.884c fa09.1.964d fa0a.1.898b fa0b.1.5ed3 fa0c.1.5140 ",
    "fa0d.1.55c0 fa10.1.585a fa12.1.6674 fa15.1.51de fa16.1.732a fa17.1.76ca fa18.1.793c ",
    "fa19.1.795e fa1a.1.7965 fa1b.1.798f fa1c.1.9756 fa1d.1.7cbe fa1e.1.7fbd fa20.1.8612 ",
    "fa22.1.8af8 fa25.1.9038 fa26.1.90fd fa2a.1.98ef fa2b.1.98fc fa2c.1.9928 fa2d.1.9db4 ",
    "fa2e.1.90de fa2f.1.96b7 fa30.1.4fae fa31.1.50e7 fa32.1.514d fa33.1.52c9 fa34.1.52e4 ",
    "fa35.1.5351 fa36.1.559d fa37.1.5606 fa38.1.5668 fa39.1.5840 fa3a.1.58a8 fa3b.1.5c64 ",
    "fa3c.1.5c6e fa3d.1.6094 fa3e.1.6168 fa3f.1.618e fa40.1.61f2 fa41.1.654f fa42.1.65e2 ",
    "fa43.1.6691 fa44.1.6885 fa45.1.6d77 fa46.1.6e1a fa47.1.6f22 fa48.1.716e fa49.1.722b ",
    "fa4a.1.7422 fa4b.1.7891 fa4c.1.793e fa4d.1.7949 fa4e.1.7948 fa4f.1.7950 fa50.1.7956 ",
    "fa51.1.795d fa52.2.798d fa54.1.7a40 fa55.1.7a81 fa56.1.7bc0 fa57.1.7df4 fa58.1.7e09 ",
    "fa59.1.7e41 fa5a.1.7f72 fa5b.1.8005 fa5c.1.81ed fa5d.1.8279 fa5e.1.8279 fa5f.1.8457 ",
    "fa60.1.8910 fa61.1.8996 fa62.1.8b01 fa63.1.8b39 fa64.1.8cd3 fa65.1.8d08 fa66.1.8fb6 ",
    "fa67.1.9038 fa68.1.96e3 fa69.1.97ff fa6a.1.983b fa6b.1.6075 fa6c.1.242ee fa6d.1.8218 ",
    "fa70.1.4e26 fa71.1.51b5 fa72.1.5168 fa73.1.4f80 fa74.1.5145 fa75.1.5180 fa76.1.52c7 ",
    "fa77.1.52fa fa78.1.559d fa79.1.5555 fa7a.1.5599 fa7b.1.55e2 fa7c.1.585a fa7d.1.58b3 ",
    "fa7e.1.5944 fa7f.1.5954 fa80.1.5a62 fa81.1.5b28 fa82.1.5ed2 fa83.1.5ed9 fa84.1.5f69 ",
    "fa85.1.5fad fa86.1.60d8 fa87.1.614e fa88.1.6108 fa89.1.618e fa8a.1.6160 fa8b.1.61f2 ",
    "fa8c.1.6234 fa8d.1.63c4 fa8e.1.641c fa8f.1.6452 fa90.1.6556 fa91.1.6674 fa92.1.6717 ",
    "fa93.1.671b fa94.1.6756 fa95.1.6b79 fa96.1.6bba fa97.1.6d41 fa98.1.6edb fa99.1.6ecb ",
    "fa9a.1.6f22 fa9b.1.701e fa9c.1.716e fa9d.1.77a7 fa9e.1.7235 fa9f.1.72af faa0.1.732a ",
    "faa1.1.7471 faa2.1.7506 faa3.1.753b faa4.1.761d faa5.1.761f faa6.1.76ca faa7.1.76db ",
    "faa8.1.76f4 faa9.1.774a faaa.1.7740 faab.1.78cc faac.1.7ab1 faad.1.7bc0 faae.1.7c7b ",
    "faaf.1.7d5b fab0.1.7df4 fab1.1.7f3e fab2.1.8005 fab3.1.8352 fab4.1.83ef fab5.1.8779 ",
    "fab6.1.8941 fab7.1.8986 fab8.1.8996 fab9.1.8abf faba.1.8af8 fabb.1.8acb fabc.1.8b01 ",
    "fabd.1.8afe fabe.1.8aed fabf.1.8b39 fac0.1.8b8a fac1.1.8d08 fac2.1.8f38 fac3.1.9072 ",
    "fac4.1.9199 fac5.1.9276 fac6.1.967c fac7.1.96e3 fac8.1.9756 fac9.1.97db faca.1.97ff ",
    "facb.1.980b facc.1.983b facd.1.9b12 face.1.9f9c facf.1.2284a fad0.1.22844 fad1.1.233d5 ",
    "fad2.1.3b9d fad3.1.4018 fad4.1.4039 fad5.1.25249 fad6.1.25cd0 fad7.1.27ed3 fad8.1.9f43 ",
    "fad9.1.9f8e fb20.1.5e2 fb21.1.5d0 fb22.2.5d3 fb24.3.5db fb27.1.5e8 fb28.1.5ea fb50.1.671 ",
    "fb51.1.671 fb52.1.67b fb53.1.67b fb54.1.67b fb55.1.67b fb56.1.67e fb57.1.67e fb58.1.67e ",
    "fb59.1.67e fb5a.1.680 fb5b.1.680 fb5c.1.680 fb5d.1.680 fb5e.1.67a fb5f.1.67a fb60.1.67a ",
    "fb61.1.67a fb62.1.67f fb63.1.67f fb64.1.67f fb65.1.67f fb66.1.679 fb67.1.679 fb68.1.679 ",
    "fb69.1.679 fb6a.1.6a4 fb6b.1.6a4 fb6c.1.6a4 fb6d.1.6a4 fb6e.1.6a6 fb6f.1.6a6 fb70.1.6a6 ",
    "fb71.1.6a6 fb72.1.684 fb73.1.684 fb74.1.684 fb75.1.684 fb76.1.683 fb77.1.683 fb78.1.683 ",
    "fb79.1.683 fb7a.1.686 fb7b.1.686 fb7c.1.686 fb7d.2.686 fb7f.1.687 fb80.1.687 fb81.1.687 ",
    "fb82.1.68d fb83.1.68d fb84.1.68c fb85.1.68c fb86.1.68e fb87.1.68e fb88.1.688 fb89.1.688 ",
    "fb8a.1.698 fb8b.1.698 fb8c.1.691 fb8d.1.691 fb8e.1.6a9 fb8f.1.6a9 fb90.1.6a9 fb91.1.6a9 ",
    "fb92.1.6af fb93.1.6af fb94.1.6af fb95.1.6af fb96.1.6b3 fb97.1.6b3 fb98.1.6b3 fb99.1.6b3 ",
    "fb9a.1.6b1 fb9b.1.6b1 fb9c.1.6b1 fb9d.1.6b1 fb9e.1.6ba fb9f.2.6ba fba1.1.6bb fba2.1.6bb ",
    "fba3.1.6bb fba6.1.6c1 fba7.1.6c1 fba8.1.6c1 fba9.1.6c1 fbaa.1.6be fbab.1.6be fbac.1.6be ",
    "fbad.1.6be fbae.1.6d2 fbaf.1.6d2 fbd3.1.6ad fbd4.1.6ad fbd5.1.6ad fbd6.1.6ad fbd7.1.6c7 ",
    "fbd8.1.6c7 fbd9.1.6c6 fbda.1.6c6 fbdb.1.6c8 fbdc.1.6c8 fbde.1.6cb fbdf.1.6cb fbe0.1.6c5 ",
    "fbe1.1.6c5 fbe2.1.6c9 fbe3.1.6c9 fbe4.1.6d0 fbe5.1.6d0 fbe6.1.6d0 fbe7.1.6d0 fbe8.1.649 ",
    "fbe9.1.649 fbfc.1.6cc fbfd.1.6cc fbfe.1.6cc fbff.1.6cc fe33.1.5f fe34.1.5f fe4d.1.5f ",
    "fe4e.1.5f fe4f.1.5f fe80.1.621 fe8d.1.627 fe8e.2.627 fe90.1.628 fe91.1.628 fe92.2.628 ",
    "fe94.2.629 fe96.1.62a fe97.1.62a fe98.2.62a fe9a.1.62b fe9b.1.62b fe9c.2.62b fe9e.1.62c ",
    "fe9f.1.62c fea0.2.62c fea2.1.62d fea3.1.62d fea4.2.62d fea6.1.62e fea7.1.62e fea8.2.62e ",
    "feaa.2.62f feac.2.630 feae.2.631 feb0.2.632 feb2.1.633 feb3.1.633 feb4.2.633 feb6.1.634 ",
    "feb7.1.634 feb8.2.634 feba.1.635 febb.1.635 febc.2.635 febe.1.636 febf.1.636 fec0.2.636 ",
    "fec2.1.637 fec3.1.637 fec4.2.637 fec6.1.638 fec7.1.638 fec8.2.638 feca.1.639 fecb.1.639 ",
    "fecc.2.639 fece.1.63a fecf.1.63a fed0.1.63a fed1.1.641 fed2.1.641 fed3.1.641 fed4.2.641 ",
    "fed6.1.642 fed7.1.642 fed8.2.642 feda.1.643 fedb.1.643 fedc.2.643 fede.1.644 fedf.1.644 ",
    "fee0.2.644 fee2.1.645 fee3.1.645 fee4.2.645 fee6.1.646 fee7.1.646 fee8.2.646 feea.1.647 ",
    "feeb.1.647 feec.2.647 feee.2.648 fef0.2.649 fef2.1.64a fef3.1.64a fef4.1.64a ff10.a.30 ",
    "ff21.1a.41 ff3f.1.5f ff41.1a.61 ff66.1.30f2 ff67.1.30a1 ff68.1.30a3 ff69.1.30a5 ",
    "ff6a.1.30a7 ff6b.1.30a9 ff6c.1.30e3 ff6d.1.30e5 ff6e.1.30e7 ff6f.1.30c3 ff70.1.30fc ",
    "ff71.1.30a2 ff72.1.30a4 ff73.1.30a6 ff74.1.30a8 ff75.2.30aa ff77.1.30ad ff78.1.30af ",
    "ff79.1.30b1 ff7a.1.30b3 ff7b.1.30b5 ff7c.1.30b7 ff7d.1.30b9 ff7e.1.30bb ff7f.1.30bd ",
    "ff80.1.30bf ff81.1.30c1 ff82.1.30c4 ff83.1.30c6 ff84.1.30c8 ff85.6.30ca ff8b.1.30d2 ",
    "ff8c.1.30d5 ff8d.1.30d8 ff8e.1.30db ff8f.5.30de ff94.1.30e4 ff95.1.30e6 ff96.6.30e8 ",
    "ff9c.1.30ef ff9d.1.30f3 ff9e.2.3099 ffa0.1.1160 ffa1.2.1100 ffa3.1.11aa ffa4.1.1102 ",
    "ffa5.2.11ac ffa7.3.1103 ffaa.6.11b0 ffb0.1.111a ffb1.3.1106 ffb4.1.1121 ffb5.a.1109 ",
    "ffc2.6.1161 ffca.6.1167 ffd2.6.116d ffda.3.1173 10781.2.2d0 10783.1.e6 10784.1.299 ",
    "10785.1.253 10787.1.2a3 10788.1.ab66 10789.1.2a5 1078a.1.2a4 1078b.2.256 1078d.1.1d91 ",
    "1078e.1.258 1078f.1.25e 10790.1.2a9 10791.1.264 10792.1.262 10793.1.260 10794.1.29b ",
    "10795.1.127 10796.1.29c 10797.1.267 10798.1.284 10799.2.2aa 1079b.1.26c 1079c.1.1df04 ",
    "1079d.1.a78e 1079e.1.26e 1079f.1.1df05 107a0.1.28e 107a1.1.1df06 107a2.1.f8 107a3.2.276 ",
    "107a5.1.71 107a6.1.27a 107a7.1.1df08 107a8.2.27d 107aa.1.280 107ab.1.2a8 107ac.1.2a6 ",
    "107ad.1.ab67 107ae.1.2a7 107af.1.288 107b0.1.2c71 107b2.1.28f 107b3.2.2a1 107b5.1.298 ",
    "107b6.3.1c0 107b9.1.1df0a 107ba.1.1df1e 1d400.1a.41 1d41a.1a.61 1d434.1a.41 1d44e.7.61 ",
    "1d456.12.69 1d468.1a.41 1d482.1a.61 1d49c.1.41 1d49e.2.43 1d4a2.1.47 1d4a5.2.4a ",
    "1d4a9.4.4e 1d4ae.8.53 1d4b6.4.61 1d4bb.1.66 1d4bd.7.68 1d4c5.b.70 1d4d0.1a.41 1d4ea.1a.61 ",
    "1d504.2.41 1d507.4.44 1d50d.8.4a 1d516.7.53 1d51e.1a.61 1d538.2.41 1d53b.4.44 1d540.5.49 ",
    "1d546.1.4f 1d54a.7.53 1d552.1a.61 1d56c.1a.41 1d586.1a.61 1d5a0.1a.41 1d5ba.1a.61 ",
    "1d5d4.1a.41 1d5ee.1a.61 1d608.1a.41 1d622.1a.61 1d63c.1a.41 1d656.1a.61 1d670.1a.41 ",
    "1d68a.1a.61 1d6a4.1.131 1d6a5.1.237 1d6a8.11.391 1d6b9.1.398 1d6ba.7.3a3 1d6c2.19.3b1 ",
    "1d6dc.1.3b5 1d6dd.1.3b8 1d6de.1.3ba 1d6df.1.3c6 1d6e0.1.3c1 1d6e1.1.3c0 1d6e2.11.391 ",
    "1d6f3.1.398 1d6f4.7.3a3 1d6fc.19.3b1 1d716.1.3b5 1d717.1.3b8 1d718.1.3ba 1d719.1.3c6 ",
    "1d71a.1.3c1 1d71b.1.3c0 1d71c.11.391 1d72d.1.398 1d72e.7.3a3 1d736.19.3b1 1d750.1.3b5 ",
    "1d751.1.3b8 1d752.1.3ba 1d753.1.3c6 1d754.1.3c1 1d755.1.3c0 1d756.11.391 1d767.1.398 ",
    "1d768.7.3a3 1d770.19.3b1 1d78a.1.3b5 1d78b.1.3b8 1d78c.1.3ba 1d78d.1.3c6 1d78e.1.3c1 ",
    "1d78f.1.3c0 1d790.11.391 1d7a1.1.398 1d7a2.7.3a3 1d7aa.19.3b1 1d7c4.1.3b5 1d7c5.1.3b8 ",
    "1d7c6.1.3ba 1d7c7.1.3c6 1d7c8.1.3c1 1d7c9.1.3c0 1d7ca.2.3dc 1d7ce.a.30 1d7d8.a.30 ",
    "1d7e2.a.30 1d7ec.a.30 1d7f6.a.30 1ee00.2.627 1ee02.1.62c 1ee03.1.62f 1ee05.1.648 ",
    "1ee06.1.632 1ee07.1.62d 1ee08.1.637 1ee09.1.64a 1ee0a.4.643 1ee0e.1.633 1ee0f.1.639 ",
    "1ee10.1.641 1ee11.1.635 1ee12.1.642 1ee13.1.631 1ee14.1.634 1ee15.2.62a 1ee17.1.62e ",
    "1ee18.1.630 1ee19.1.636 1ee1a.1.638 1ee1b.1.63a 1ee1c.1.66e 1ee1d.1.6ba 1ee1e.1.6a1 ",
    "1ee1f.1.66f 1ee21.1.628 1ee22.1.62c 1ee24.1.647 1ee27.1.62d 1ee29.1.64a 1ee2a.4.643 ",
    "1ee2e.1.633 1ee2f.1.639 1ee30.1.641 1ee31.1.635 1ee32.1.642 1ee34.1.634 1ee35.2.62a ",
    "1ee37.1.62e 1ee39.1.636 1ee3b.1.63a 1ee42.1.62c 1ee47.1.62d 1ee49.1.64a 1ee4b.1.644 ",
    "1ee4d.1.646 1ee4e.1.633 1ee4f.1.639 1ee51.1.635 1ee52.1.642 1ee54.1.634 1ee57.1.62e ",
    "1ee59.1.636 1ee5b.1.63a 1ee5d.1.6ba 1ee5f.1.66f 1ee61.1.628 1ee62.1.62c 1ee64.1.647 ",
    "1ee67.1.62d 1ee68.1.637 1ee69.1.64a 1ee6a.1.643 1ee6c.2.645 1ee6e.1.633 1ee6f.1.639 ",
    "1ee70.1.641 1ee71.1.635 1ee72.1.642 1ee74.1.634 1ee75.2.62a 1ee77.1.62e 1ee79.1.636 ",
    "1ee7a.1.638 1ee7b.1.63a 1ee7c.1.66e 1ee7e.1.6a1 1ee80.2.627 1ee82.1.62c 1ee83.1.62f ",
    "1ee84.2.647 1ee86.1.632 1ee87.1.62d 1ee88.1.637 1ee89.1.64a 1ee8b.3.644 1ee8e.1.633 ",
    "1ee8f.1.639 1ee90.1.641 1ee91.1.635 1ee92.1.642 1ee93.1.631 1ee94.1.634 1ee95.2.62a ",
    "1ee97.1.62e 1ee98.1.630 1ee99.1.636 1ee9a.1.638 1ee9b.1.63a 1eea1.1.628 1eea2.1.62c ",
    "1eea3.1.62f 1eea5.1.648 1eea6.1.632 1eea7.1.62d 1eea8.1.637 1eea9.1.64a 1eeab.3.644 ",
    "1eeae.1.633 1eeaf.1.639 1eeb0.1.641 1eeb1.1.635 1eeb2.1.642 1eeb3.1.631 1eeb4.1.634 ",
    "1eeb5.2.62a 1eeb7.1.62e 1eeb8.1.630 1eeb9.1.636 1eeba.1.638 1eebb.1.63a 1fbf0.a.30 ",
    "2f800.1.4e3d 2f801.1.4e38 2f802.1.4e41 2f803.1.20122 2f804.1.4f60 2f805.1.4fae ",
    "2f806.1.4fbb 2f807.1.5002 2f808.1.507a 2f809.1.5099 2f80a.1.50e7 2f80b.1.50cf ",
    "2f80c.1.349e 2f80d.1.2063a 2f80e.1.514d 2f80f.1.5154 2f810.1.5164 2f811.1.5177 ",
    "2f812.1.2051c 2f813.1.34b9 2f814.1.5167 2f815.1.518d 2f816.1.2054b 2f817.1.5197 ",
    "2f818.1.51a4 2f819.1.4ecc 2f81a.1.51ac 2f81b.1.51b5 2f81c.1.291df 2f81d.1.51f5 ",
    "2f81e.1.5203 2f81f.1.34df 2f820.1.523b 2f821.1.5246 2f822.1.5272 2f823.1.5277 ",
    "2f824.1.3515 2f825.1.52c7 2f826.1.52c9 2f827.1.52e4 2f828.1.52fa 2f829.2.5305 ",
    "2f82b.1.5317 2f82c.1.5349 2f82d.1.5351 2f82e.1.535a 2f82f.1.5373 2f830.1.537d ",
    "2f831.1.537f 2f832.1.537f 2f833.1.537f 2f834.1.20a2c 2f835.1.7070 2f836.1.53ca ",
    "2f837.1.53df 2f838.1.20b63 2f839.1.53eb 2f83a.1.53f1 2f83b.1.5406 2f83c.1.549e ",
    "2f83d.1.5438 2f83e.1.5448 2f83f.1.5468 2f840.1.54a2 2f841.1.54f6 2f842.1.5510 ",
    "2f843.1.5553 2f844.1.5563 2f845.1.5584 2f846.1.5584 2f847.1.5599 2f848.1.55ab ",
    "2f849.1.55b3 2f84a.1.55c2 2f84b.1.5716 2f84c.1.5606 2f84d.1.5717 2f84e.1.5651 ",
    "2f84f.1.5674 2f850.1.5207 2f851.1.58ee 2f852.1.57ce 2f853.1.57f4 2f854.1.580d ",
    "2f855.1.578b 2f856.1.5832 2f857.1.5831 2f858.1.58ac 2f859.1.214e4 2f85a.1.58f2 ",
    "2f85b.1.58f7 2f85c.1.5906 2f85d.1.591a 2f85e.1.5922 2f85f.1.5962 2f860.1.216a8 ",
    "2f861.1.216ea 2f862.1.59ec 2f863.1.5a1b 2f864.1.5a27 2f865.1.59d8 2f866.1.5a66 ",
    "2f867.1.36ee 2f868.1.36fc 2f869.1.5b08 2f86a.1.5b3e 2f86b.1.5b3e 2f86c.1.219c8 ",
    "2f86d.1.5bc3 2f86e.1.5bd8 2f86f.1.5be7 2f870.1.5bf3 2f871.1.21b18 2f872.1.5bff ",
    "2f873.1.5c06 2f874.1.5f53 2f875.1.5c22 2f876.1.3781 2f877.1.5c60 2f878.1.5c6e ",
    "2f879.1.5cc0 2f87a.1.5c8d 2f87b.1.21de4 2f87c.1.5d43 2f87d.1.21de6 2f87e.1.5d6e ",
    "2f87f.1.5d6b 2f880.1.5d7c 2f881.2.5de1 2f883.1.382f 2f884.1.5dfd 2f885.1.5e28 ",
    "2f886.1.5e3d 2f887.1.5e69 2f888.1.3862 2f889.1.22183 2f88a.1.387c 2f88b.1.5eb0 ",
    "2f88c.1.5eb3 2f88d.1.5eb6 2f88e.1.5eca 2f88f.1.2a392 2f890.1.5efe 2f891.1.22331 ",
    "2f892.1.22331 2f893.1.8201 2f894.1.5f22 2f895.1.5f22 2f896.1.38c7 2f897.1.232b8 ",
    "2f898.1.261da 2f899.1.5f62 2f89a.1.5f6b 2f89b.1.38e3 2f89c.1.5f9a 2f89d.1.5fcd ",
    "2f89e.1.5fd7 2f89f.1.5ff9 2f8a0.1.6081 2f8a1.1.393a 2f8a2.1.391c 2f8a3.1.6094 ",
    "2f8a4.1.226d4 2f8a5.1.60c7 2f8a6.1.6148 2f8a7.1.614c 2f8a8.1.614e 2f8a9.1.614c ",
    "2f8aa.1.617a 2f8ab.1.618e 2f8ac.1.61b2 2f8ad.1.61a4 2f8ae.1.61af 2f8af.1.61de ",
    "2f8b0.1.61f2 2f8b1.1.61f6 2f8b2.1.6210 2f8b3.1.621b 2f8b4.1.625d 2f8b5.1.62b1 ",
    "2f8b6.1.62d4 2f8b7.1.6350 2f8b8.1.22b0c 2f8b9.1.633d 2f8ba.1.62fc 2f8bb.1.6368 ",
    "2f8bc.1.6383 2f8bd.1.63e4 2f8be.1.22bf1 2f8bf.1.6422 2f8c0.1.63c5 2f8c1.1.63a9 ",
    "2f8c2.1.3a2e 2f8c3.1.6469 2f8c4.1.647e 2f8c5.1.649d 2f8c6.1.6477 2f8c7.1.3a6c ",
    "2f8c8.1.654f 2f8c9.1.656c 2f8ca.1.2300a 2f8cb.1.65e3 2f8cc.1.66f8 2f8cd.1.6649 ",
    "2f8ce.1.3b19 2f8cf.1.6691 2f8d0.1.3b08 2f8d1.1.3ae4 2f8d2.1.5192 2f8d3.1.5195 ",
    "2f8d4.1.6700 2f8d5.1.669c 2f8d6.1.80ad 2f8d7.1.43d9 2f8d8.1.6717 2f8d9.1.671b ",
    "2f8da.1.6721 2f8db.1.675e 2f8dc.1.6753 2f8dd.1.233c3 2f8de.1.3b49 2f8df.1.67fa ",
    "2f8e0.1.6785 2f8e1.1.6852 2f8e2.1.6885 2f8e3.1.2346d 2f8e4.1.688e 2f8e5.1.681f ",
    "2f8e6.1.6914 2f8e7.1.3b9d 2f8e8.1.6942 2f8e9.1.69a3 2f8ea.1.69ea 2f8eb.1.6aa8 ",
    "2f8ec.1.236a3 2f8ed.1.6adb 2f8ee.1.3c18 2f8ef.1.6b21 2f8f0.1.238a7 2f8f1.1.6b54 ",
    "2f8f2.1.3c4e 2f8f3.1.6b72 2f8f4.1.6b9f 2f8f5.2.6bba 2f8f7.1.23a8d 2f8f8.1.21d0b ",
    "2f8f9.1.23afa 2f8fa.1.6c4e 2f8fb.1.23cbc 2f8fc.1.6cbf 2f8fd.1.6ccd 2f8fe.1.6c67 ",
    "2f8ff.1.6d16 2f900.1.6d3e 2f901.1.6d77 2f902.1.6d41 2f903.1.6d69 2f904.1.6d78 ",
    "2f905.1.6d85 2f906.1.23d1e 2f907.1.6d34 2f908.1.6e2f 2f909.1.6e6e 2f90a.1.3d33 ",
    "2f90b.1.6ecb 2f90c.1.6ec7 2f90d.1.23ed1 2f90e.1.6df9 2f90f.1.6f6e 2f910.1.23f5e ",
    "2f911.1.23f8e 2f912.1.6fc6 2f913.1.7039 2f914.1.701e 2f915.1.701b 2f916.1.3d96 ",
    "2f917.1.704a 2f918.1.707d 2f919.1.7077 2f91a.1.70ad 2f91b.1.20525 2f91c.1.7145 ",
    "2f91d.1.24263 2f91e.1.719c 2f91f.1.243ab 2f920.1.7228 2f921.1.7235 2f922.1.7250 ",
    "2f923.1.24608 2f924.1.7280 2f925.1.7295 2f926.1.24735 2f927.1.24814 2f928.1.737a ",
    "2f929.1.738b 2f92a.1.3eac 2f92b.1.73a5 2f92c.1.3eb8 2f92d.1.3eb8 2f92e.1.7447 ",
    "2f92f.1.745c 2f930.1.7471 2f931.1.7485 2f932.1.74ca 2f933.1.3f1b 2f934.1.7524 ",
    "2f935.1.24c36 2f936.1.753e 2f937.1.24c92 2f938.1.7570 2f939.1.2219f 2f93a.1.7610 ",
    "2f93b.1.24fa1 2f93c.1.24fb8 2f93d.1.25044 2f93e.1.3ffc 2f93f.1.4008 2f940.1.76f4 ",
    "2f941.1.250f3 2f942.1.250f2 2f943.1.25119 2f944.1.25133 2f945.2.771e 2f947.1.771f ",
    "2f948.1.774a 2f949.1.4039 2f94a.1.778b 2f94b.1.4046 2f94c.1.4096 2f94d.1.2541d ",
    "2f94e.1.784e 2f94f.1.788c 2f950.1.78cc 2f951.1.40e3 2f952.1.25626 2f953.1.7956 ",
    "2f954.1.2569a 2f955.1.256c5 2f956.1.798f 2f957.1.79eb 2f958.1.412f 2f959.1.7a40 ",
    "2f95a.1.7a4a 2f95b.1.7a4f 2f95c.1.2597c 2f95d.1.25aa7 2f95e.1.25aa7 2f95f.1.7aee ",
    "2f960.1.4202 2f961.1.25bab 2f962.1.7bc6 2f963.1.7bc9 2f964.1.4227 2f965.1.25c80 ",
    "2f966.1.7cd2 2f967.1.42a0 2f968.1.7ce8 2f969.1.7ce3 2f96a.1.7d00 2f96b.1.25f86 ",
    "2f96c.1.7d63 2f96d.1.4301 2f96e.1.7dc7 2f96f.1.7e02 2f970.1.7e45 2f971.1.4334 ",
    "2f972.1.26228 2f973.1.26247 2f974.1.4359 2f975.1.262d9 2f976.1.7f7a 2f977.1.2633e ",
    "2f978.1.7f95 2f979.1.7ffa 2f97a.1.8005 2f97b.1.264da 2f97c.1.26523 2f97d.1.8060 ",
    "2f97e.1.265a8 2f97f.1.8070 2f980.1.2335f 2f981.1.43d5 2f982.1.80b2 2f983.1.8103 ",
    "2f984.1.440b 2f985.1.813e 2f986.1.5ab5 2f987.1.267a7 2f988.1.267b5 2f989.1.23393 ",
    "2f98a.1.2339c 2f98b.1.8201 2f98c.1.8204 2f98d.1.8f9e 2f98e.1.446b 2f98f.1.8291 ",
    "2f990.1.828b 2f991.1.829d 2f992.1.52b3 2f993.1.82b1 2f994.1.82b3 2f995.1.82bd ",
    "2f996.1.82e6 2f997.1.26b3c 2f998.1.82e5 2f999.1.831d 2f99a.1.8363 2f99b.1.83ad ",
    "2f99c.1.8323 2f99d.1.83bd 2f99e.1.83e7 2f99f.1.8457 2f9a0.1.8353 2f9a1.1.83ca ",
    "2f9a2.1.83cc 2f9a3.1.83dc 2f9a4.1.26c36 2f9a5.1.26d6b 2f9a6.1.26cd5 2f9a7.1.452b ",
    "2f9a8.1.84f1 2f9a9.1.84f3 2f9aa.1.8516 2f9ab.1.273ca 2f9ac.1.8564 2f9ad.1.26f2c ",
    "2f9ae.1.455d 2f9af.1.4561 2f9b0.1.26fb1 2f9b1.1.270d2 2f9b2.1.456b 2f9b3.1.8650 ",
    "2f9b4.1.865c 2f9b5.1.8667 2f9b6.1.8669 2f9b7.1.86a9 2f9b8.1.8688 2f9b9.1.870e ",
    "2f9ba.1.86e2 2f9bb.1.8779 2f9bc.1.8728 2f9bd.1.876b 2f9be.1.8786 2f9bf.1.45d7 ",
    "2f9c0.1.87e1 2f9c1.1.8801 2f9c2.1.45f9 2f9c3.1.8860 2f9c4.1.8863 2f9c5.1.27667 ",
    "2f9c6.1.88d7 2f9c7.1.88de 2f9c8.1.4635 2f9c9.1.88fa 2f9ca.1.34bb 2f9cb.1.278ae ",
    "2f9cc.1.27966 2f9cd.1.46be 2f9ce.1.46c7 2f9cf.1.8aa0 2f9d0.1.8aed 2f9d1.1.8b8a ",
    "2f9d2.1.8c55 2f9d3.1.27ca8 2f9d4.1.8cab 2f9d5.1.8cc1 2f9d6.1.8d1b 2f9d7.1.8d77 ",
    "2f9d8.1.27f2f 2f9d9.1.20804 2f9da.1.8dcb 2f9db.1.8dbc 2f9dc.1.8df0 2f9dd.1.208de ",
    "2f9de.1.8ed4 2f9df.1.8f38 2f9e0.1.285d2 2f9e1.1.285ed 2f9e2.1.9094 2f9e3.1.90f1 ",
    "2f9e4.1.9111 2f9e5.1.2872e 2f9e6.1.911b 2f9e7.1.9238 2f9e8.2.92d7 2f9ea.1.927c ",
    "2f9eb.1.93f9 2f9ec.1.9415 2f9ed.1.28bfa 2f9ee.1.958b 2f9ef.1.4995 2f9f0.1.95b7 ",
    "2f9f1.1.28d77 2f9f2.1.49e6 2f9f3.1.96c3 2f9f4.1.5db2 2f9f5.1.9723 2f9f6.1.29145 ",
    "2f9f7.1.2921a 2f9f8.1.4a6e 2f9f9.1.4a76 2f9fa.1.97e0 2f9fb.1.2940a 2f9fc.1.4ab2 ",
    "2f9fd.1.29496 2f9fe.1.980b 2f9ff.1.980b 2fa00.1.9829 2fa01.1.295b6 2fa02.1.98e2 ",
    "2fa03.1.4b33 2fa04.1.9929 2fa05.1.99a7 2fa06.1.99c2 2fa07.1.99fe 2fa08.1.4bce ",
    "2fa09.1.29b30 2fa0a.1.9b12 2fa0b.1.9c40 2fa0c.1.9cfd 2fa0d.1.4cce 2fa0e.1.4ced ",
    "2fa0f.1.9d67 2fa10.1.2a0ce 2fa11.1.4cf8 2fa12.1.2a105 2fa13.1.2a20e 2fa14.1.2a291 ",
    "2fa15.1.9ebb 2fa16.1.4d56 2fa17.1.9ef9 2fa18.1.9efe 2fa19.1.9f05 2fa1a.1.9f0f ",
    "2fa1b.1.9f16 2fa1c.1.9f3b 2fa1d.1.2a600"])).map fun
    | [a, n, b] => (a, n, b)
    | _ => default).toArray

/-- The characters that stand for several plain characters. -/
def styledRows : List (Nat × List Nat) := caseRows
  (String.join [
    "132.49.4a 133.69.6a 13f.4c.b7 140.6c.b7 149.2bc.6e 1c4.44.5a.30c 1c5.44.7a.30c ",
    "1c6.64.7a.30c 1c7.4c.4a 1c8.4c.6a 1c9.6c.6a 1ca.4e.4a 1cb.4e.6a 1cc.6e.6a 1f1.44.5a ",
    "1f2.44.7a 1f3.64.7a 344.308.301 587.565.582 675.627.674 676.648.674 677.6c7.674 ",
    "678.64a.674 958.915.93c 959.916.93c 95a.917.93c 95b.91c.93c 95c.921.93c 95d.922.93c ",
    "95e.92b.93c 95f.92f.93c 9dc.9a1.9bc 9dd.9a2.9bc 9df.9af.9bc a33.a32.a3c a36.a38.a3c ",
    "a59.a16.a3c a5a.a17.a3c a5b.a1c.a3c a5e.a2b.a3c b5c.b21.b3c b5d.b22.b3c e33.e4d.e32 ",
    "eb3.ecd.eb2 edc.eab.e99 edd.eab.ea1 f43.f42.fb7 f4d.f4c.fb7 f52.f51.fb7 f57.f56.fb7 ",
    "f5c.f5b.fb7 f69.f40.fb5 f73.f71.f72 f75.f71.f74 f76.fb2.f80 f77.fb2.f71.f80 f78.fb3.f80 ",
    "f79.fb3.f71.f80 f81.f71.f80 f93.f92.fb7 f9d.f9c.fb7 fa2.fa1.fb7 fa7.fa6.fb7 fac.fab.fb7 ",
    "fb9.f90.fb5 1e9a.61.2be 1f71.3b1.301 1f73.3b5.301 1f75.3b7.301 1f77.3b9.301 1f79.3bf.301 ",
    "1f7b.3c5.301 1f7d.3c9.301 1fbb.391.301 1fc9.395.301 1fcb.397.301 1fd3.3b9.308.301 ",
    "1fdb.399.301 1fe3.3c5.308.301 1feb.3a5.301 1ff9.39f.301 1ffb.3a9.301 212b.41.30a ",
    "2161.49.49 2162.49.49.49 2163.49.56 2165.56.49 2166.56.49.49 2167.56.49.49.49 2168.49.58 ",
    "216a.58.49 216b.58.49.49 2171.69.69 2172.69.69.69 2173.69.76 2175.76.69 2176.76.69.69 ",
    "2177.76.69.69.69 2178.69.78 217a.78.69 217b.78.69.69 309f.3088.308a 30ff.30b3.30c8 ",
    "fb00.66.66 fb01.66.69 fb02.66.6c fb03.66.66.69 fb04.66.66.6c fb05.73.74 fb06.73.74 ",
    "fb13.574.576 fb14.574.565 fb15.574.56b fb16.57e.576 fb17.574.56d fb1d.5d9.5b4 ",
    "fb1f.5f2.5b7 fb2a.5e9.5c1 fb2b.5e9.5c2 fb2c.5e9.5bc.5c1 fb2d.5e9.5bc.5c2 fb2e.5d0.5b7 ",
    "fb2f.5d0.5b8 fb30.5d0.5bc fb31.5d1.5bc fb32.5d2.5bc fb33.5d3.5bc fb34.5d4.5bc ",
    "fb35.5d5.5bc fb36.5d6.5bc fb38.5d8.5bc fb39.5d9.5bc fb3a.5da.5bc fb3b.5db.5bc ",
    "fb3c.5dc.5bc fb3e.5de.5bc fb40.5e0.5bc fb41.5e1.5bc fb43.5e3.5bc fb44.5e4.5bc ",
    "fb46.5e6.5bc fb47.5e7.5bc fb48.5e8.5bc fb49.5e9.5bc fb4a.5ea.5bc fb4b.5d5.5b9 ",
    "fb4c.5d1.5bf fb4d.5db.5bf fb4e.5e4.5bf fb4f.5d0.5dc fba4.6d5.654 fba5.6d5.654 ",
    "fbb0.6d2.654 fbb1.6d2.654 fbdd.6c7.674 fbea.64a.654.627 fbeb.64a.654.627 fbec.64a.654.6d5 ",
    "fbed.64a.654.6d5 fbee.64a.654.648 fbef.64a.654.648 fbf0.64a.654.6c7 fbf1.64a.654.6c7 ",
    "fbf2.64a.654.6c6 fbf3.64a.654.6c6 fbf4.64a.654.6c8 fbf5.64a.654.6c8 fbf6.64a.654.6d0 ",
    "fbf7.64a.654.6d0 fbf8.64a.654.6d0 fbf9.64a.654.649 fbfa.64a.654.649 fbfb.64a.654.649 ",
    "fc00.64a.654.62c fc01.64a.654.62d fc02.64a.654.645 fc03.64a.654.649 fc04.64a.654.64a ",
    "fc05.628.62c fc06.628.62d fc07.628.62e fc08.628.645 fc09.628.649 fc0a.628.64a ",
    "fc0b.62a.62c fc0c.62a.62d fc0d.62a.62e fc0e.62a.645 fc0f.62a.649 fc10.62a.64a ",
    "fc11.62b.62c fc12.62b.645 fc13.62b.649 fc14.62b.64a fc15.62c.62d fc16.62c.645 ",
    "fc17.62d.62c fc18.62d.645 fc19.62e.62c fc1a.62e.62d fc1b.62e.645 fc1c.633.62c ",
    "fc1d.633.62d fc1e.633.62e fc1f.633.645 fc20.635.62d fc21.635.645 fc22.636.62c ",
    "fc23.636.62d fc24.636.62e fc25.636.645 fc26.637.62d fc27.637.645 fc28.638.645 ",
    "fc29.639.62c fc2a.639.645 fc2b.63a.62c fc2c.63a.645 fc2d.641.62c fc2e.641.62d ",
    "fc2f.641.62e fc30.641.645 fc31.641.649 fc32.641.64a fc33.642.62d fc34.642.645 ",
    "fc35.642.649 fc36.642.64a fc37.643.627 fc38.643.62c fc39.643.62d fc3a.643.62e ",
    "fc3b.643.644 fc3c.643.645 fc3d.643.649 fc3e.643.64a fc3f.644.62c fc40.644.62d ",
    "fc41.644.62e fc42.644.645 fc43.644.649 fc44.644.64a fc45.645.62c fc46.645.62d ",
    "fc47.645.62e fc48.645.645 fc49.645.649 fc4a.645.64a fc4b.646.62c fc4c.646.62d ",
    "fc4d.646.62e fc4e.646.645 fc4f.646.649 fc50.646.64a fc51.647.62c fc52.647.645 ",
    "fc53.647.649 fc54.647.64a fc55.64a.62c fc56.64a.62d fc57.64a.62e fc58.64a.645 ",
    "fc59.64a.649 fc5a.64a.64a fc5b.630.670 fc5c.631.670 fc5d.649.670 fc64.64a.654.631 ",
    "fc65.64a.654.632 fc66.64a.654.645 fc67.64a.654.646 fc68.64a.654.649 fc69.64a.654.64a ",
    "fc6a.628.631 fc6b.628.632 fc6c.628.645 fc6d.628.646 fc6e.628.649 fc6f.628.64a ",
    "fc70.62a.631 fc71.62a.632 fc72.62a.645 fc73.62a.646 fc74.62a.649 fc75.62a.64a ",
    "fc76.62b.631 fc77.62b.632 fc78.62b.645 fc79.62b.646 fc7a.62b.649 fc7b.62b.64a ",
    "fc7c.641.649 fc7d.641.64a fc7e.642.649 fc7f.642.64a fc80.643.627 fc81.643.644 ",
    "fc82.643.645 fc83.643.649 fc84.643.64a fc85.644.645 fc86.644.649 fc87.644.64a ",
    "fc88.645.627 fc89.645.645 fc8a.646.631 fc8b.646.632 fc8c.646.645 fc8d.646.646 ",
    "fc8e.646.649 fc8f.646.64a fc90.649.670 fc91.64a.631 fc92.64a.632 fc93.64a.645 ",
    "fc94.64a.646 fc95.64a.649 fc96.64a.64a fc97.64a.654.62c fc98.64a.654.62d fc99.64a.654.62e ",
    "fc9a.64a.654.645 fc9b.64a.654.647 fc9c.628.62c fc9d.628.62d fc9e.628.62e fc9f.628.645 ",
    "fca0.628.647 fca1.62a.62c fca2.62a.62d fca3.62a.62e fca4.62a.645 fca5.62a.647 ",
    "fca6.62b.645 fca7.62c.62d fca8.62c.645 fca9.62d.62c fcaa.62d.645 fcab.62e.62c ",
    "fcac.62e.645 fcad.633.62c fcae.633.62d fcaf.633.62e fcb0.633.645 fcb1.635.62d ",
    "fcb2.635.62e fcb3.635.645 fcb4.636.62c fcb5.636.62d fcb6.636.62e fcb7.636.645 ",
    "fcb8.637.62d fcb9.638.645 fcba.639.62c fcbb.639.645 fcbc.63a.62c fcbd.63a.645 ",
    "fcbe.641.62c fcbf.641.62d fcc0.641.62e fcc1.641.645 fcc2.642.62d fcc3.642.645 ",
    "fcc4.643.62c fcc5.643.62d fcc6.643.62e fcc7.643.644 fcc8.643.645 fcc9.644.62c ",
    "fcca.644.62d fccb.644.62e fccc.644.645 fccd.644.647 fcce.645.62c fccf.645.62d ",
    "fcd0.645.62e fcd1.645.645 fcd2.646.62c fcd3.646.62d fcd4.646.62e fcd5.646.645 ",
    "fcd6.646.647 fcd7.647.62c fcd8.647.645 fcd9.647.670 fcda.64a.62c fcdb.64a.62d ",
    "fcdc.64a.62e fcdd.64a.645 fcde.64a.647 fcdf.64a.654.645 fce0.64a.654.647 fce1.628.645 ",
    "fce2.628.647 fce3.62a.645 fce4.62a.647 fce5.62b.645 fce6.62b.647 fce7.633.645 ",
    "fce8.633.647 fce9.634.645 fcea.634.647 fceb.643.644 fcec.643.645 fced.644.645 ",
    "fcee.646.645 fcef.646.647 fcf0.64a.645 fcf1.64a.647 fcf2.640.64e.651 fcf3.640.64f.651 ",
    "fcf4.640.650.651 fcf5.637.649 fcf6.637.64a fcf7.639.649 fcf8.639.64a fcf9.63a.649 ",
    "fcfa.63a.64a fcfb.633.649 fcfc.633.64a fcfd.634.649 fcfe.634.64a fcff.62d.649 ",
    "fd00.62d.64a fd01.62c.649 fd02.62c.64a fd03.62e.649 fd04.62e.64a fd05.635.649 ",
    "fd06.635.64a fd07.636.649 fd08.636.64a fd09.634.62c fd0a.634.62d fd0b.634.62e ",
    "fd0c.634.645 fd0d.634.631 fd0e.633.631 fd0f.635.631 fd10.636.631 fd11.637.649 ",
    "fd12.637.64a fd13.639.649 fd14.639.64a fd15.63a.649 fd16.63a.64a fd17.633.649 ",
    "fd18.633.64a fd19.634.649 fd1a.634.64a fd1b.62d.649 fd1c.62d.64a fd1d.62c.649 ",
    "fd1e.62c.64a fd1f.62e.649 fd20.62e.64a fd21.635.649 fd22.635.64a fd23.636.649 ",
    "fd24.636.64a fd25.634.62c fd26.634.62d fd27.634.62e fd28.634.645 fd29.634.631 ",
    "fd2a.633.631 fd2b.635.631 fd2c.636.631 fd2d.634.62c fd2e.634.62d fd2f.634.62e ",
    "fd30.634.645 fd31.633.647 fd32.634.647 fd33.637.645 fd34.633.62c fd35.633.62d ",
    "fd36.633.62e fd37.634.62c fd38.634.62d fd39.634.62e fd3a.637.645 fd3b.638.645 ",
    "fd3c.627.64b fd3d.627.64b fd50.62a.62c.645 fd51.62a.62d.62c fd52.62a.62d.62c ",
    "fd53.62a.62d.645 fd54.62a.62e.645 fd55.62a.645.62c fd56.62a.645.62d fd57.62a.645.62e ",
    "fd58.62c.645.62d fd59.62c.645.62d fd5a.62d.645.64a fd5b.62d.645.649 fd5c.633.62d.62c ",
    "fd5d.633.62c.62d fd5e.633.62c.649 fd5f.633.645.62d fd60.633.645.62d fd61.633.645.62c ",
    "fd62.633.645.645 fd63.633.645.645 fd64.635.62d.62d fd65.635.62d.62d fd66.635.645.645 ",
    "fd67.634.62d.645 fd68.634.62d.645 fd69.634.62c.64a fd6a.634.645.62e fd6b.634.645.62e ",
    "fd6c.634.645.645 fd6d.634.645.645 fd6e.636.62d.649 fd6f.636.62e.645 fd70.636.62e.645 ",
    "fd71.637.645.62d fd72.637.645.62d fd73.637.645.645 fd74.637.645.64a fd75.639.62c.645 ",
    "fd76.639.645.645 fd77.639.645.645 fd78.639.645.649 fd79.63a.645.645 fd7a.63a.645.64a ",
    "fd7b.63a.645.649 fd7c.641.62e.645 fd7d.641.62e.645 fd7e.642.645.62d fd7f.642.645.645 ",
    "fd80.644.62d.645 fd81.644.62d.64a fd82.644.62d.649 fd83.644.62c.62c fd84.644.62c.62c ",
    "fd85.644.62e.645 fd86.644.62e.645 fd87.644.645.62d fd88.644.645.62d fd89.645.62d.62c ",
    "fd8a.645.62d.645 fd8b.645.62d.64a fd8c.645.62c.62d fd8d.645.62c.645 fd8e.645.62e.62c ",
    "fd8f.645.62e.645 fd92.645.62c.62e fd93.647.645.62c fd94.647.645.645 fd95.646.62d.645 ",
    "fd96.646.62d.649 fd97.646.62c.645 fd98.646.62c.645 fd99.646.62c.649 fd9a.646.645.64a ",
    "fd9b.646.645.649 fd9c.64a.645.645 fd9d.64a.645.645 fd9e.628.62e.64a fd9f.62a.62c.64a ",
    "fda0.62a.62c.649 fda1.62a.62e.64a fda2.62a.62e.649 fda3.62a.645.64a fda4.62a.645.649 ",
    "fda5.62c.645.64a fda6.62c.62d.649 fda7.62c.645.649 fda8.633.62e.649 fda9.635.62d.64a ",
    "fdaa.634.62d.64a fdab.636.62d.64a fdac.644.62c.64a fdad.644.645.64a fdae.64a.62d.64a ",
    "fdaf.64a.62c.64a fdb0.64a.645.64a fdb1.645.645.64a fdb2.642.645.64a fdb3.646.62d.64a ",
    "fdb4.642.645.62d fdb5.644.62d.645 fdb6.639.645.64a fdb7.643.645.64a fdb8.646.62c.62d ",
    "fdb9.645.62e.64a fdba.644.62c.645 fdbb.643.645.645 fdbc.644.62c.645 fdbd.646.62c.62d ",
    "fdbe.62c.62d.64a fdbf.62d.62c.64a fdc0.645.62c.64a fdc1.641.645.64a fdc2.628.62d.64a ",
    "fdc3.643.645.645 fdc4.639.62c.645 fdc5.635.645.645 fdc6.633.62e.64a fdc7.646.62c.64a ",
    "fdf0.635.644.6d2 fdf1.642.644.6d2 fdf2.627.644.644.647 fdf3.627.643.628.631 ",
    "fdf4.645.62d.645.62f fdf5.635.644.639.645 fdf6.631.633.648.644 fdf7.639.644.64a.647 ",
    "fdf8.648.633.644.645 fdf9.635.644.649 fe71.640.64b fe77.640.64e fe79.640.64f fe7b.640.650 ",
    "fe7d.640.651 fe7f.640.652 fe81.627.653 fe82.627.653 fe83.627.654 fe84.627.654 ",
    "fe85.648.654 fe86.648.654 fe87.627.655 fe88.627.655 fe89.64a.654 fe8a.64a.654 ",
    "fe8b.64a.654 fe8c.64a.654 fef5.644.627.653 fef6.644.627.653 fef7.644.627.654 ",
    "fef8.644.627.654 fef9.644.627.655 fefa.644.627.655 fefb.644.627 fefc.644.627"])

/-- The composed characters, with the two that each is composed of. -/
def composedRows : List (Nat × Nat × Nat) :=
  (tableRows
  (String.join [
    "c0.41.300 c1.41.301 c2.41.302 c3.41.303 c4.41.308 c5.41.30a c7.43.327 c8.45.300 c9.45.301 ",
    "ca.45.302 cb.45.308 cc.49.300 cd.49.301 ce.49.302 cf.49.308 d1.4e.303 d2.4f.300 d3.4f.301 ",
    "d4.4f.302 d5.4f.303 d6.4f.308 d9.55.300 da.55.301 db.55.302 dc.55.308 dd.59.301 e0.61.300 ",
    "e1.61.301 e2.61.302 e3.61.303 e4.61.308 e5.61.30a e7.63.327 e8.65.300 e9.65.301 ea.65.302 ",
    "eb.65.308 ec.69.300 ed.69.301 ee.69.302 ef.69.308 f1.6e.303 f2.6f.300 f3.6f.301 f4.6f.302 ",
    "f5.6f.303 f6.6f.308 f9.75.300 fa.75.301 fb.75.302 fc.75.308 fd.79.301 ff.79.308 ",
    "100.41.304 101.61.304 102.41.306 103.61.306 104.41.328 105.61.328 106.43.301 107.63.301 ",
    "108.43.302 109.63.302 10a.43.307 10b.63.307 10c.43.30c 10d.63.30c 10e.44.30c 10f.64.30c ",
    "112.45.304 113.65.304 114.45.306 115.65.306 116.45.307 117.65.307 118.45.328 119.65.328 ",
    "11a.45.30c 11b.65.30c 11c.47.302 11d.67.302 11e.47.306 11f.67.306 120.47.307 121.67.307 ",
    "122.47.327 123.67.327 124.48.302 125.68.302 128.49.303 129.69.303 12a.49.304 12b.69.304 ",
    "12c.49.306 12d.69.306 12e.49.328 12f.69.328 130.49.307 134.4a.302 135.6a.302 136.4b.327 ",
    "137.6b.327 139.4c.301 13a.6c.301 13b.4c.327 13c.6c.327 13d.4c.30c 13e.6c.30c 143.4e.301 ",
    "144.6e.301 145.4e.327 146.6e.327 147.4e.30c 148.6e.30c 14c.4f.304 14d.6f.304 14e.4f.306 ",
    "14f.6f.306 150.4f.30b 151.6f.30b 154.52.301 155.72.301 156.52.327 157.72.327 158.52.30c ",
    "159.72.30c 15a.53.301 15b.73.301 15c.53.302 15d.73.302 15e.53.327 15f.73.327 160.53.30c ",
    "161.73.30c 162.54.327 163.74.327 164.54.30c 165.74.30c 168.55.303 169.75.303 16a.55.304 ",
    "16b.75.304 16c.55.306 16d.75.306 16e.55.30a 16f.75.30a 170.55.30b 171.75.30b 172.55.328 ",
    "173.75.328 174.57.302 175.77.302 176.59.302 177.79.302 178.59.308 179.5a.301 17a.7a.301 ",
    "17b.5a.307 17c.7a.307 17d.5a.30c 17e.7a.30c 1a0.4f.31b 1a1.6f.31b 1af.55.31b 1b0.75.31b ",
    "1cd.41.30c 1ce.61.30c 1cf.49.30c 1d0.69.30c 1d1.4f.30c 1d2.6f.30c 1d3.55.30c 1d4.75.30c ",
    "1d5.dc.304 1d6.fc.304 1d7.dc.301 1d8.fc.301 1d9.dc.30c 1da.fc.30c 1db.dc.300 1dc.fc.300 ",
    "1de.c4.304 1df.e4.304 1e0.226.304 1e1.227.304 1e2.c6.304 1e3.e6.304 1e6.47.30c 1e7.67.30c ",
    "1e8.4b.30c 1e9.6b.30c 1ea.4f.328 1eb.6f.328 1ec.1ea.304 1ed.1eb.304 1ee.1b7.30c ",
    "1ef.292.30c 1f0.6a.30c 1f4.47.301 1f5.67.301 1f8.4e.300 1f9.6e.300 1fa.c5.301 1fb.e5.301 ",
    "1fc.c6.301 1fd.e6.301 1fe.d8.301 1ff.f8.301 200.41.30f 201.61.30f 202.41.311 203.61.311 ",
    "204.45.30f 205.65.30f 206.45.311 207.65.311 208.49.30f 209.69.30f 20a.49.311 20b.69.311 ",
    "20c.4f.30f 20d.6f.30f 20e.4f.311 20f.6f.311 210.52.30f 211.72.30f 212.52.311 213.72.311 ",
    "214.55.30f 215.75.30f 216.55.311 217.75.311 218.53.326 219.73.326 21a.54.326 21b.74.326 ",
    "21e.48.30c 21f.68.30c 226.41.307 227.61.307 228.45.327 229.65.327 22a.d6.304 22b.f6.304 ",
    "22c.d5.304 22d.f5.304 22e.4f.307 22f.6f.307 230.22e.304 231.22f.304 232.59.304 233.79.304 ",
    "385.a8.301 386.391.301 388.395.301 389.397.301 38a.399.301 38c.39f.301 38e.3a5.301 ",
    "38f.3a9.301 390.3ca.301 3aa.399.308 3ab.3a5.308 3ac.3b1.301 3ad.3b5.301 3ae.3b7.301 ",
    "3af.3b9.301 3b0.3cb.301 3ca.3b9.308 3cb.3c5.308 3cc.3bf.301 3cd.3c5.301 3ce.3c9.301 ",
    "3d3.3d2.301 3d4.3d2.308 400.415.300 401.415.308 403.413.301 407.406.308 40c.41a.301 ",
    "40d.418.300 40e.423.306 419.418.306 439.438.306 450.435.300 451.435.308 453.433.301 ",
    "457.456.308 45c.43a.301 45d.438.300 45e.443.306 476.474.30f 477.475.30f 4c1.416.306 ",
    "4c2.436.306 4d0.410.306 4d1.430.306 4d2.410.308 4d3.430.308 4d6.415.306 4d7.435.306 ",
    "4da.4d8.308 4db.4d9.308 4dc.416.308 4dd.436.308 4de.417.308 4df.437.308 4e2.418.304 ",
    "4e3.438.304 4e4.418.308 4e5.438.308 4e6.41e.308 4e7.43e.308 4ea.4e8.308 4eb.4e9.308 ",
    "4ec.42d.308 4ed.44d.308 4ee.423.304 4ef.443.304 4f0.423.308 4f1.443.308 4f2.423.30b ",
    "4f3.443.30b 4f4.427.308 4f5.447.308 4f8.42b.308 4f9.44b.308 622.627.653 623.627.654 ",
    "624.648.654 625.627.655 626.64a.654 6c0.6d5.654 6c2.6c1.654 6d3.6d2.654 929.928.93c ",
    "931.930.93c 934.933.93c 9cb.9c7.9be 9cc.9c7.9d7 b48.b47.b56 b4b.b47.b3e b4c.b47.b57 ",
    "b94.b92.bd7 bca.bc6.bbe bcb.bc7.bbe bcc.bc6.bd7 c48.c46.c56 cc0.cbf.cd5 cc7.cc6.cd5 ",
    "cc8.cc6.cd6 cca.cc6.cc2 ccb.cca.cd5 d4a.d46.d3e d4b.d47.d3e d4c.d46.d57 dda.dd9.dca ",
    "ddc.dd9.dcf ddd.ddc.dca dde.dd9.ddf 1026.1025.102e 1b06.1b05.1b35 1b08.1b07.1b35 ",
    "1b0a.1b09.1b35 1b0c.1b0b.1b35 1b0e.1b0d.1b35 1b12.1b11.1b35 1b3b.1b3a.1b35 1b3d.1b3c.1b35 ",
    "1b40.1b3e.1b35 1b41.1b3f.1b35 1b43.1b42.1b35 1e00.41.325 1e01.61.325 1e02.42.307 ",
    "1e03.62.307 1e04.42.323 1e05.62.323 1e06.42.331 1e07.62.331 1e08.c7.301 1e09.e7.301 ",
    "1e0a.44.307 1e0b.64.307 1e0c.44.323 1e0d.64.323 1e0e.44.331 1e0f.64.331 1e10.44.327 ",
    "1e11.64.327 1e12.44.32d 1e13.64.32d 1e14.112.300 1e15.113.300 1e16.112.301 1e17.113.301 ",
    "1e18.45.32d 1e19.65.32d 1e1a.45.330 1e1b.65.330 1e1c.228.306 1e1d.229.306 1e1e.46.307 ",
    "1e1f.66.307 1e20.47.304 1e21.67.304 1e22.48.307 1e23.68.307 1e24.48.323 1e25.68.323 ",
    "1e26.48.308 1e27.68.308 1e28.48.327 1e29.68.327 1e2a.48.32e 1e2b.68.32e 1e2c.49.330 ",
    "1e2d.69.330 1e2e.cf.301 1e2f.ef.301 1e30.4b.301 1e31.6b.301 1e32.4b.323 1e33.6b.323 ",
    "1e34.4b.331 1e35.6b.331 1e36.4c.323 1e37.6c.323 1e38.1e36.304 1e39.1e37.304 1e3a.4c.331 ",
    "1e3b.6c.331 1e3c.4c.32d 1e3d.6c.32d 1e3e.4d.301 1e3f.6d.301 1e40.4d.307 1e41.6d.307 ",
    "1e42.4d.323 1e43.6d.323 1e44.4e.307 1e45.6e.307 1e46.4e.323 1e47.6e.323 1e48.4e.331 ",
    "1e49.6e.331 1e4a.4e.32d 1e4b.6e.32d 1e4c.d5.301 1e4d.f5.301 1e4e.d5.308 1e4f.f5.308 ",
    "1e50.14c.300 1e51.14d.300 1e52.14c.301 1e53.14d.301 1e54.50.301 1e55.70.301 1e56.50.307 ",
    "1e57.70.307 1e58.52.307 1e59.72.307 1e5a.52.323 1e5b.72.323 1e5c.1e5a.304 1e5d.1e5b.304 ",
    "1e5e.52.331 1e5f.72.331 1e60.53.307 1e61.73.307 1e62.53.323 1e63.73.323 1e64.15a.307 ",
    "1e65.15b.307 1e66.160.307 1e67.161.307 1e68.1e62.307 1e69.1e63.307 1e6a.54.307 ",
    "1e6b.74.307 1e6c.54.323 1e6d.74.323 1e6e.54.331 1e6f.74.331 1e70.54.32d 1e71.74.32d ",
    "1e72.55.324 1e73.75.324 1e74.55.330 1e75.75.330 1e76.55.32d 1e77.75.32d 1e78.168.301 ",
    "1e79.169.301 1e7a.16a.308 1e7b.16b.308 1e7c.56.303 1e7d.76.303 1e7e.56.323 1e7f.76.323 ",
    "1e80.57.300 1e81.77.300 1e82.57.301 1e83.77.301 1e84.57.308 1e85.77.308 1e86.57.307 ",
    "1e87.77.307 1e88.57.323 1e89.77.323 1e8a.58.307 1e8b.78.307 1e8c.58.308 1e8d.78.308 ",
    "1e8e.59.307 1e8f.79.307 1e90.5a.302 1e91.7a.302 1e92.5a.323 1e93.7a.323 1e94.5a.331 ",
    "1e95.7a.331 1e96.68.331 1e97.74.308 1e98.77.30a 1e99.79.30a 1e9b.17f.307 1ea0.41.323 ",
    "1ea1.61.323 1ea2.41.309 1ea3.61.309 1ea4.c2.301 1ea5.e2.301 1ea6.c2.300 1ea7.e2.300 ",
    "1ea8.c2.309 1ea9.e2.309 1eaa.c2.303 1eab.e2.303 1eac.1ea0.302 1ead.1ea1.302 1eae.102.301 ",
    "1eaf.103.301 1eb0.102.300 1eb1.103.300 1eb2.102.309 1eb3.103.309 1eb4.102.303 ",
    "1eb5.103.303 1eb6.1ea0.306 1eb7.1ea1.306 1eb8.45.323 1eb9.65.323 1eba.45.309 1ebb.65.309 ",
    "1ebc.45.303 1ebd.65.303 1ebe.ca.301 1ebf.ea.301 1ec0.ca.300 1ec1.ea.300 1ec2.ca.309 ",
    "1ec3.ea.309 1ec4.ca.303 1ec5.ea.303 1ec6.1eb8.302 1ec7.1eb9.302 1ec8.49.309 1ec9.69.309 ",
    "1eca.49.323 1ecb.69.323 1ecc.4f.323 1ecd.6f.323 1ece.4f.309 1ecf.6f.309 1ed0.d4.301 ",
    "1ed1.f4.301 1ed2.d4.300 1ed3.f4.300 1ed4.d4.309 1ed5.f4.309 1ed6.d4.303 1ed7.f4.303 ",
    "1ed8.1ecc.302 1ed9.1ecd.302 1eda.1a0.301 1edb.1a1.301 1edc.1a0.300 1edd.1a1.300 ",
    "1ede.1a0.309 1edf.1a1.309 1ee0.1a0.303 1ee1.1a1.303 1ee2.1a0.323 1ee3.1a1.323 1ee4.55.323 ",
    "1ee5.75.323 1ee6.55.309 1ee7.75.309 1ee8.1af.301 1ee9.1b0.301 1eea.1af.300 1eeb.1b0.300 ",
    "1eec.1af.309 1eed.1b0.309 1eee.1af.303 1eef.1b0.303 1ef0.1af.323 1ef1.1b0.323 1ef2.59.300 ",
    "1ef3.79.300 1ef4.59.323 1ef5.79.323 1ef6.59.309 1ef7.79.309 1ef8.59.303 1ef9.79.303 ",
    "1f00.3b1.313 1f01.3b1.314 1f02.1f00.300 1f03.1f01.300 1f04.1f00.301 1f05.1f01.301 ",
    "1f06.1f00.342 1f07.1f01.342 1f08.391.313 1f09.391.314 1f0a.1f08.300 1f0b.1f09.300 ",
    "1f0c.1f08.301 1f0d.1f09.301 1f0e.1f08.342 1f0f.1f09.342 1f10.3b5.313 1f11.3b5.314 ",
    "1f12.1f10.300 1f13.1f11.300 1f14.1f10.301 1f15.1f11.301 1f18.395.313 1f19.395.314 ",
    "1f1a.1f18.300 1f1b.1f19.300 1f1c.1f18.301 1f1d.1f19.301 1f20.3b7.313 1f21.3b7.314 ",
    "1f22.1f20.300 1f23.1f21.300 1f24.1f20.301 1f25.1f21.301 1f26.1f20.342 1f27.1f21.342 ",
    "1f28.397.313 1f29.397.314 1f2a.1f28.300 1f2b.1f29.300 1f2c.1f28.301 1f2d.1f29.301 ",
    "1f2e.1f28.342 1f2f.1f29.342 1f30.3b9.313 1f31.3b9.314 1f32.1f30.300 1f33.1f31.300 ",
    "1f34.1f30.301 1f35.1f31.301 1f36.1f30.342 1f37.1f31.342 1f38.399.313 1f39.399.314 ",
    "1f3a.1f38.300 1f3b.1f39.300 1f3c.1f38.301 1f3d.1f39.301 1f3e.1f38.342 1f3f.1f39.342 ",
    "1f40.3bf.313 1f41.3bf.314 1f42.1f40.300 1f43.1f41.300 1f44.1f40.301 1f45.1f41.301 ",
    "1f48.39f.313 1f49.39f.314 1f4a.1f48.300 1f4b.1f49.300 1f4c.1f48.301 1f4d.1f49.301 ",
    "1f50.3c5.313 1f51.3c5.314 1f52.1f50.300 1f53.1f51.300 1f54.1f50.301 1f55.1f51.301 ",
    "1f56.1f50.342 1f57.1f51.342 1f59.3a5.314 1f5b.1f59.300 1f5d.1f59.301 1f5f.1f59.342 ",
    "1f60.3c9.313 1f61.3c9.314 1f62.1f60.300 1f63.1f61.300 1f64.1f60.301 1f65.1f61.301 ",
    "1f66.1f60.342 1f67.1f61.342 1f68.3a9.313 1f69.3a9.314 1f6a.1f68.300 1f6b.1f69.300 ",
    "1f6c.1f68.301 1f6d.1f69.301 1f6e.1f68.342 1f6f.1f69.342 1f70.3b1.300 1f72.3b5.300 ",
    "1f74.3b7.300 1f76.3b9.300 1f78.3bf.300 1f7a.3c5.300 1f7c.3c9.300 1f80.1f00.345 ",
    "1f81.1f01.345 1f82.1f02.345 1f83.1f03.345 1f84.1f04.345 1f85.1f05.345 1f86.1f06.345 ",
    "1f87.1f07.345 1f88.1f08.345 1f89.1f09.345 1f8a.1f0a.345 1f8b.1f0b.345 1f8c.1f0c.345 ",
    "1f8d.1f0d.345 1f8e.1f0e.345 1f8f.1f0f.345 1f90.1f20.345 1f91.1f21.345 1f92.1f22.345 ",
    "1f93.1f23.345 1f94.1f24.345 1f95.1f25.345 1f96.1f26.345 1f97.1f27.345 1f98.1f28.345 ",
    "1f99.1f29.345 1f9a.1f2a.345 1f9b.1f2b.345 1f9c.1f2c.345 1f9d.1f2d.345 1f9e.1f2e.345 ",
    "1f9f.1f2f.345 1fa0.1f60.345 1fa1.1f61.345 1fa2.1f62.345 1fa3.1f63.345 1fa4.1f64.345 ",
    "1fa5.1f65.345 1fa6.1f66.345 1fa7.1f67.345 1fa8.1f68.345 1fa9.1f69.345 1faa.1f6a.345 ",
    "1fab.1f6b.345 1fac.1f6c.345 1fad.1f6d.345 1fae.1f6e.345 1faf.1f6f.345 1fb0.3b1.306 ",
    "1fb1.3b1.304 1fb2.1f70.345 1fb3.3b1.345 1fb4.3ac.345 1fb6.3b1.342 1fb7.1fb6.345 ",
    "1fb8.391.306 1fb9.391.304 1fba.391.300 1fbc.391.345 1fc1.a8.342 1fc2.1f74.345 ",
    "1fc3.3b7.345 1fc4.3ae.345 1fc6.3b7.342 1fc7.1fc6.345 1fc8.395.300 1fca.397.300 ",
    "1fcc.397.345 1fcd.1fbf.300 1fce.1fbf.301 1fcf.1fbf.342 1fd0.3b9.306 1fd1.3b9.304 ",
    "1fd2.3ca.300 1fd6.3b9.342 1fd7.3ca.342 1fd8.399.306 1fd9.399.304 1fda.399.300 ",
    "1fdd.1ffe.300 1fde.1ffe.301 1fdf.1ffe.342 1fe0.3c5.306 1fe1.3c5.304 1fe2.3cb.300 ",
    "1fe4.3c1.313 1fe5.3c1.314 1fe6.3c5.342 1fe7.3cb.342 1fe8.3a5.306 1fe9.3a5.304 ",
    "1fea.3a5.300 1fec.3a1.314 1fed.a8.300 1ff2.1f7c.345 1ff3.3c9.345 1ff4.3ce.345 ",
    "1ff6.3c9.342 1ff7.1ff6.345 1ff8.39f.300 1ffa.3a9.300 1ffc.3a9.345 219a.2190.338 ",
    "219b.2192.338 21ae.2194.338 21cd.21d0.338 21ce.21d4.338 21cf.21d2.338 2204.2203.338 ",
    "2209.2208.338 220c.220b.338 2224.2223.338 2226.2225.338 2241.223c.338 2244.2243.338 ",
    "2247.2245.338 2249.2248.338 2260.3d.338 2262.2261.338 226d.224d.338 226e.3c.338 ",
    "226f.3e.338 2270.2264.338 2271.2265.338 2274.2272.338 2275.2273.338 2278.2276.338 ",
    "2279.2277.338 2280.227a.338 2281.227b.338 2284.2282.338 2285.2283.338 2288.2286.338 ",
    "2289.2287.338 22ac.22a2.338 22ad.22a8.338 22ae.22a9.338 22af.22ab.338 22e0.227c.338 ",
    "22e1.227d.338 22e2.2291.338 22e3.2292.338 22ea.22b2.338 22eb.22b3.338 22ec.22b4.338 ",
    "22ed.22b5.338 304c.304b.3099 304e.304d.3099 3050.304f.3099 3052.3051.3099 3054.3053.3099 ",
    "3056.3055.3099 3058.3057.3099 305a.3059.3099 305c.305b.3099 305e.305d.3099 3060.305f.3099 ",
    "3062.3061.3099 3065.3064.3099 3067.3066.3099 3069.3068.3099 3070.306f.3099 3071.306f.309a ",
    "3073.3072.3099 3074.3072.309a 3076.3075.3099 3077.3075.309a 3079.3078.3099 307a.3078.309a ",
    "307c.307b.3099 307d.307b.309a 3094.3046.3099 309e.309d.3099 30ac.30ab.3099 30ae.30ad.3099 ",
    "30b0.30af.3099 30b2.30b1.3099 30b4.30b3.3099 30b6.30b5.3099 30b8.30b7.3099 30ba.30b9.3099 ",
    "30bc.30bb.3099 30be.30bd.3099 30c0.30bf.3099 30c2.30c1.3099 30c5.30c4.3099 30c7.30c6.3099 ",
    "30c9.30c8.3099 30d0.30cf.3099 30d1.30cf.309a 30d3.30d2.3099 30d4.30d2.309a 30d6.30d5.3099 ",
    "30d7.30d5.309a 30d9.30d8.3099 30da.30d8.309a 30dc.30db.3099 30dd.30db.309a 30f4.30a6.3099 ",
    "30f7.30ef.3099 30f8.30f0.3099 30f9.30f1.3099 30fa.30f2.3099 30fe.30fd.3099 ",
    "1109a.11099.110ba 1109c.1109b.110ba 110ab.110a5.110ba 1112e.11131.11127 1112f.11132.11127 ",
    "1134b.11347.1133e 1134c.11347.11357 114bb.114b9.114ba 114bc.114b9.114b0 114be.114b9.114bd ",
    "115ba.115b8.115af 115bb.115b9.115af 11938.11935.11930"])).map fun
    | [c, a, b] => (c, a, b)
    | _ => default

/-- Runs of marks of the same class: the first, their number and the class. -/
def markRuns : Array (Nat × Nat × Nat) :=
  ((tableRows
  (String.join [
    "300.15.e6 315.1.e8 316.4.dc 31a.1.e8 31b.1.d8 31c.5.dc 321.2.ca 323.4.dc 327.2.ca ",
    "329.b.dc 334.5.1 339.4.dc 33d.8.e6 345.1.f0 346.1.e6 347.3.dc 34a.3.e6 34d.2.dc 350.3.e6 ",
    "353.4.dc 357.1.e6 358.1.e8 359.2.dc 35b.1.e6 35c.1.e9 35d.2.ea 35f.1.e9 360.2.ea 362.1.e9 ",
    "363.d.e6 483.5.e6 591.1.dc 592.4.e6 596.1.dc 597.3.e6 59a.1.de 59b.1.dc 59c.6.e6 5a2.6.dc ",
    "5a8.2.e6 5aa.1.dc 5ab.2.e6 5ad.1.de 5ae.1.e4 5af.1.e6 5b0.1.a 5b1.1.b 5b2.1.c 5b3.1.d ",
    "5b4.1.e 5b5.1.f 5b6.1.10 5b7.1.11 5b8.1.12 5b9.2.13 5bb.1.14 5bc.1.15 5bd.1.16 5bf.1.17 ",
    "5c1.1.18 5c2.1.19 5c4.1.e6 5c5.1.dc 5c7.1.12 610.8.e6 618.1.1e 619.1.1f 61a.1.20 64b.1.1b ",
    "64c.1.1c 64d.1.1d 64e.1.1e 64f.1.1f 650.1.20 651.1.21 652.1.22 653.2.e6 655.2.dc 657.5.e6 ",
    "65c.1.dc 65d.2.e6 65f.1.dc 670.1.23 6d6.7.e6 6df.4.e6 6e3.1.dc 6e4.1.e6 6e7.2.e6 6ea.1.dc ",
    "6eb.2.e6 6ed.1.dc 711.1.24 730.1.e6 731.1.dc 732.2.e6 734.1.dc 735.2.e6 737.3.dc 73a.1.e6 ",
    "73b.2.dc 73d.1.e6 73e.1.dc 73f.3.e6 742.1.dc 743.1.e6 744.1.dc 745.1.e6 746.1.dc 747.1.e6 ",
    "748.1.dc 749.2.e6 7eb.7.e6 7f2.1.dc 7f3.1.e6 7fd.1.dc 816.4.e6 81b.9.e6 825.3.e6 829.5.e6 ",
    "859.3.dc 898.1.e6 899.3.dc 89c.4.e6 8ca.5.e6 8cf.5.dc 8d4.e.e6 8e3.1.dc 8e4.2.e6 8e6.1.dc ",
    "8e7.2.e6 8e9.1.dc 8ea.3.e6 8ed.3.dc 8f0.1.1b 8f1.1.1c 8f2.1.1d 8f3.3.e6 8f6.1.dc 8f7.2.e6 ",
    "8f9.2.dc 8fb.5.e6 93c.1.7 94d.1.9 951.1.e6 952.1.dc 953.2.e6 9bc.1.7 9cd.1.9 9fe.1.e6 ",
    "a3c.1.7 a4d.1.9 abc.1.7 acd.1.9 b3c.1.7 b4d.1.9 bcd.1.9 c3c.1.7 c4d.1.9 c55.1.54 c56.1.5b ",
    "cbc.1.7 ccd.1.9 d3b.2.9 d4d.1.9 dca.1.9 e38.2.67 e3a.1.9 e48.4.6b eb8.2.76 eba.1.9 ",
    "ec8.4.7a f18.2.dc f35.1.dc f37.1.dc f39.1.d8 f71.1.81 f72.1.82 f74.1.84 f7a.4.82 f80.1.82 ",
    "f82.2.e6 f84.1.9 f86.2.e6 fc6.1.dc 1037.1.7 1039.2.9 108d.1.dc 135d.3.e6 1714.2.9 ",
    "1734.1.9 17d2.1.9 17dd.1.e6 18a9.1.e4 1939.1.de 193a.1.e6 193b.1.dc 1a17.1.e6 1a18.1.dc ",
    "1a60.1.9 1a75.8.e6 1a7f.1.dc 1ab0.5.e6 1ab5.6.dc 1abb.2.e6 1abd.1.dc 1abf.2.dc 1ac1.2.e6 ",
    "1ac3.2.dc 1ac5.5.e6 1aca.1.dc 1acb.4.e6 1b34.1.7 1b44.1.9 1b6b.1.e6 1b6c.1.dc 1b6d.7.e6 ",
    "1baa.2.9 1be6.1.7 1bf2.2.9 1c37.1.7 1cd0.3.e6 1cd4.1.1 1cd5.5.dc 1cda.2.e6 1cdc.4.dc ",
    "1ce0.1.e6 1ce2.7.1 1ced.1.dc 1cf4.1.e6 1cf8.2.e6 1dc0.2.e6 1dc2.1.dc 1dc3.7.e6 1dca.1.dc ",
    "1dcb.2.e6 1dcd.1.ea 1dce.1.d6 1dcf.1.dc 1dd0.1.ca 1dd1.25.e6 1df6.1.e8 1df7.2.e4 ",
    "1df9.1.dc 1dfa.1.da 1dfb.1.e6 1dfc.1.e9 1dfd.1.dc 1dfe.1.e6 1dff.1.dc 20d0.2.e6 20d2.2.1 ",
    "20d4.4.e6 20d8.3.1 20db.2.e6 20e1.1.e6 20e5.2.1 20e7.1.e6 20e8.1.dc 20e9.1.e6 20ea.2.1 ",
    "20ec.4.dc 20f0.1.e6 2cef.3.e6 2d7f.1.9 2de0.20.e6 302a.1.da 302b.1.e4 302c.1.e8 302d.1.de ",
    "302e.2.e0 3099.2.8 a66f.1.e6 a674.a.e6 a69e.2.e6 a6f0.2.e6 a806.1.9 a82c.1.9 a8c4.1.9 ",
    "a8e0.12.e6 a92b.3.dc a953.1.9 a9b3.1.7 a9c0.1.9 aab0.1.e6 aab2.2.e6 aab4.1.dc aab7.2.e6 ",
    "aabe.2.e6 aac1.1.e6 aaf6.1.9 abed.1.9 fb1e.1.1a fe20.7.e6 fe27.7.dc fe2e.2.e6 101fd.1.dc ",
    "102e0.1.dc 10376.5.e6 10a0d.1.dc 10a0f.1.e6 10a38.1.e6 10a39.1.1 10a3a.1.dc 10a3f.1.9 ",
    "10ae5.1.e6 10ae6.1.dc 10d24.4.e6 10eab.2.e6 10f46.2.dc 10f48.3.e6 10f4b.1.dc 10f4c.1.e6 ",
    "10f4d.4.dc 10f82.1.e6 10f83.1.dc 10f84.1.e6 10f85.1.dc 11046.1.9 11070.1.9 1107f.1.9 ",
    "110b9.1.9 110ba.1.7 11100.3.e6 11133.2.9 11173.1.7 111c0.1.9 111ca.1.7 11235.1.9 ",
    "11236.1.7 112e9.1.7 112ea.1.9 1133b.2.7 1134d.1.9 11366.7.e6 11370.5.e6 11442.1.9 ",
    "11446.1.7 1145e.1.e6 114c2.1.9 114c3.1.7 115bf.1.9 115c0.1.7 1163f.1.9 116b6.1.9 ",
    "116b7.1.7 1172b.1.9 11839.1.9 1183a.1.7 1193d.2.9 11943.1.7 119e0.1.9 11a34.1.9 11a47.1.9 ",
    "11a99.1.9 11c3f.1.9 11d42.1.7 11d44.2.9 11d97.1.9 16af0.5.1 16b30.7.e6 16ff0.2.6 ",
    "1bc9e.1.1 1d165.2.d8 1d167.3.1 1d16d.1.e2 1d16e.5.d8 1d17b.8.dc 1d185.5.e6 1d18a.2.dc ",
    "1d1aa.4.e6 1d242.3.e6 1e000.7.e6 1e008.11.e6 1e01b.7.e6 1e023.2.e6 1e026.5.e6 1e130.7.e6 ",
    "1e2ae.1.e6 1e2ec.4.e6 1e8d0.7.dc 1e944.6.e6 1e94a.1.7"])).map fun
    | [a, n, c] => (a, n, c)
    | _ => default).toArray

/-- The class of a mark; 0 for a character that is none. -/
def markClass (p : Nat) : Nat :=
  (markRuns.findSome? fun (a, n, c) => if a ≤ p && p < a + n then some c else none).getD 0

/-- The plain parts of a character; `fuel` bounds the depth of composition. -/
def plainParts : (fuel : Nat) → Nat → List Nat
  | 0, p => [p]
  | fuel + 1, p =>
    if p < 0xA0 then [p]
    else if 0xAC00 ≤ p && p < 0xAC00 + 11172 then
      -- a syllable is composed of a leading consonant, a vowel and perhaps a final consonant
      let s := p - 0xAC00
      [0x1100 + s / 588, 0x1161 + s % 588 / 28] ++
        (if s % 28 == 0 then [] else [0x11A7 + s % 28])
    else
      match composedRows.lookup p with
      | some (a, b) => plainParts fuel a ++ plainParts fuel b
      | none =>
        match styledRuns.findSome? fun (a, n, b) =>
          if a ≤ p && p < a + n then some (p - a + b) else none with
        | some q => [q]
        | none => (styledRows.lookup p).getD [p]

/-- Puts a mark into a text in reverse, behind the marks of higher classes. -/
def insertMark (c p : Nat) : List Nat → List Nat
  | [] => [p]
  | q :: qs => if markClass q > c then q :: insertMark c p qs else p :: q :: qs

/-- A text with the marks after each character in the order of their classes. -/
def orderMarks (ps : List Nat) : List Nat :=
  (ps.foldl (fun done p =>
    let c := markClass p
    if c == 0 then p :: done else insertMark c p done) []).reverse

/-- The composed form of two characters. -/
def compose? (a b : Nat) : Option Nat :=
  if 0x1100 ≤ a && a < 0x1113 && 0x1161 ≤ b && b < 0x1176 then
    some (0xAC00 + ((a - 0x1100) * 21 + (b - 0x1161)) * 28)
  else if 0xAC00 ≤ a && a < 0xAC00 + 11172 && (a - 0xAC00) % 28 == 0 && 0x11A7 < b &&
      b < 0x11C3 then
    some (a + (b - 0x11A7))
  else (composedRows.find? fun (_, x, y) => x == a && y == b).map (·.1)

/-- Composes what follows a character `start` with it: `between` are the characters in between that
stay, in reverse, and `last` is the class of the last of them. -/
def composeFrom (start : Nat) (between : List Nat) (last : Nat) : List Nat → List Nat
  | [] => start :: between.reverse
  | p :: ps =>
    let c := markClass p
    let adjacent := between.isEmpty || (last < c && last != 0)
    match if adjacent then compose? start p else none with
    | some q => composeFrom q between last ps
    | none =>
      if c == 0 then start :: between.reverse ++ composeFrom p [] 0 ps
      else composeFrom start (p :: between) c ps

/-- The normal form of a name. -/
def normalised (ps : List Nat) : List Nat :=
  if ps.all (· < 0x80) then ps
  else
    match orderMarks (ps.flatMap (plainParts 8)) with
    | [] => []
    | p :: qs => composeFrom p [] 0 qs

end GuestBridge.Text
